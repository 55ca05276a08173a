import Mathlib.Algebra.Ring.Nat
import Mathlib.Logic.Function.Basic

/-!
Owns how values are written as texts. A codec reads back what it writes; nothing is said of
texts that no value is written to, which a reader may take or refuse. A format writes
messages without delimiters: the kind of a message fixes the widths of its fields, and the
message is written as its fields one after the other. Nothing in the text marks where a
field ends or which kind it is of; a text is unambiguous because no two kinds have the same
total width.

It names no program. The bodies of the calls between two nodes are read by codecs, and the
transactions they sign are written in a format.
-/

set_option autoImplicit false

namespace Guac.Foundation

/-- Values of `α` as texts of `τ`. -/
structure Codec (τ α : Type*) where
  write : α → τ
  read : τ → Option α
  read_write : ∀ value, read (write value) = some value

attribute [simp] Codec.read_write

variable {μ κ α : Type*}

/-- Messages of several kinds, the fields of each of the widths of its kind. -/
structure Format (μ κ α : Type*) where
  kind : μ → κ
  widths : κ → List Nat
  fields : μ → List (List α)
  fits : ∀ message, (fields message).map List.length = widths (kind message)
  apart : Function.Injective fun kind => (widths kind).sum

namespace Format

def write (format : Format μ κ α) (message : μ) : List α := (format.fields message).flatten

variable (format : Format μ κ α) {first second : μ}

@[simp] theorem length_write (message : μ) :
    (format.write message).length = (format.widths (format.kind message)).sum := by
  rw [write, List.length_flatten, format.fits]

theorem kind_eq_of_write_eq (same : format.write first = format.write second) :
    format.kind first = format.kind second := by
  apply format.apart
  have lengths := congrArg List.length same
  rwa [length_write, length_write] at lengths

/-- A text has one reading. -/
theorem write_eq_iff :
    format.write first = format.write second ↔ format.fields first = format.fields second := by
  constructor
  · intro same
    have widths : (format.fields first).map List.length =
        (format.fields second).map List.length := by
      rw [format.fits, format.fits, format.kind_eq_of_write_eq same]
    exact List.eq_iff_flatten_eq.mpr ⟨same, widths⟩
  · intro same
    rw [write, write, same]

end Format

end Guac.Foundation
