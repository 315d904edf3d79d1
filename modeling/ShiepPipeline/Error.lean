import Mathlib.Data.List.Infix

/-!
# Errors

The error type of the crate and the short form in which errors are quoted inside other errors.
-/

namespace ShiepPipeline

inductive EcError
  | invalidConfig (text : String)
  | unsupported (text : String)
  | runtime (text : String)
deriving DecidableEq, Repr

/-- `RUNTIME_PREFIX`. -/
def runtimePrefix : String := "runtime failure: "

def EcError.display : EcError → String
  | .invalidConfig text => "invalid config: " ++ text
  | .unsupported text => "unsupported: " ++ text
  | .runtime text => runtimePrefix ++ text

def stripRuntimePrefixes (message : List Char) : List Char :=
  if runtimePrefix.toList <+: message then
    stripRuntimePrefixes (message.drop runtimePrefix.toList.length)
  else message
termination_by message.length
decreasing_by
  have hlen : 0 < runtimePrefix.toList.length := by decide
  have hle : runtimePrefix.toList.length ≤ message.length := List.IsPrefix.length_le ‹_›
  rw [List.length_drop]
  omega

def conciseMessage (message : String) : String :=
  String.ofList (stripRuntimePrefixes message.toList)

def conciseError (err : EcError) : String := conciseMessage err.display

/-- A computation that may fail gives a result if both of its parts do. -/
theorem bind_eq_ok_iff {ε α β : Type} {x : Except ε α} {f : α → Except ε β} {b : β} :
    x >>= f = .ok b ↔ ∃ a, x = .ok a ∧ f a = .ok b := by
  cases x with
  | error e => exact ⟨fun h ↦ (nomatch h), fun ⟨_, h, _⟩ ↦ (nomatch h)⟩
  | ok a => exact ⟨fun h ↦ ⟨a, rfl, h⟩, fun ⟨_, ha, h⟩ ↦ Except.ok.inj ha ▸ h⟩

end ShiepPipeline
