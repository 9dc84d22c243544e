import VaultUsage.Log
import VaultUsage.Service.Error
import VaultUsage.Service.Request

/-!
# Exchanges with the service

What an operation comes to, together with the requests that it makes and what it logs. Of two operations
in sequence, the second one is not begun if the first one fails.
-/

namespace VaultUsage

structure Exchange (ε α : Type) where
  result : Except ε α
  requests : List Request := []
  log : List LogRecord := []

namespace Exchange

variable {ε φ α β : Type}

def map (f : α → β) (x : Exchange ε α) : Exchange ε β := ⟨x.result.map f, x.requests, x.log⟩

def mapError (f : ε → φ) (x : Exchange ε α) : Exchange φ α := ⟨x.result.mapError f, x.requests, x.log⟩

def andThen (x : Exchange ε α) (next : α → Exchange ε β) : Exchange ε β :=
  match x.result with
  | .error e => ⟨.error e, x.requests, x.log⟩
  | .ok a =>
    let y := next a
    ⟨y.result, x.requests ++ y.requests, x.log ++ y.log⟩

@[simp] theorem map_ok {f : α → β} {x : Exchange ε α} {b : β} :
    (x.map f).result = .ok b ↔ ∃ a, x.result = .ok a ∧ f a = b := by
  unfold map
  cases x.result <;> simp [Except.map]

@[simp] theorem mapError_ok {f : ε → φ} {x : Exchange ε α} {a : α} :
    (x.mapError f).result = .ok a ↔ x.result = .ok a := by
  unfold mapError
  cases x.result with
  | error e => exact ⟨nofun, nofun⟩
  | ok b => exact ⟨fun h => congrArg _ (Except.ok.inj h), fun h => congrArg _ (Except.ok.inj h)⟩

@[simp] theorem andThen_ok {x : Exchange ε α} {next : α → Exchange ε β} {b : β} :
    (x.andThen next).result = .ok b ↔ ∃ a, x.result = .ok a ∧ (next a).result = .ok b := by
  unfold andThen
  cases x.result <;> simp

end Exchange

end VaultUsage
