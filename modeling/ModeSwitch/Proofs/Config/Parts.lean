import ModeSwitch.Config.Decoding
import ModeSwitch.Proofs.Yaml.Records

/-! Parts of a record as they are read.

Each part is kept apart from the others, so what may be said of a field is settled by what its own
value can be.
-/

namespace ModeSwitch

open Yaml Decode

section Parts

variable {ρ α : Type} {name : String} {get : ρ → Option α} {put : ρ → α → ρ}
  {read : Path → Node → Decode α}

/-- A part reads what its form writes, and is kept with those read before. -/
theorem part_reads {among : List String → ρ} {value : α} {Writes : Node → Prop} {mayOmit : Prop}
    (kept : ∀ done, get (among done) = amongRead done name value)
    (puts : ∀ done, put (among done) value = among (name :: done))
    (reads : ∀ node, Writes node → ∀ path, read path node = pure value)
    : Reads IsAt among (part name get put read) ⟨name, Writes, mayOmit⟩ := by
  refine keeping_reads kept puts ?_
  rintro ⟨path, _⟩ node rfl writes
  exact reads _ writes path

/-- A part refuses what its rule refuses, and cannot be missing if the rule demands it. -/
theorem part_obeys {β : Type} {complete : ρ → Except Mismatch β} {demanded : Prop}
    {Refuses : Node → Prop} (refuses : ∀ node, Refuses node → ∀ path, Fails (read path node))
    (required
      : demanded → ∀ record value, complete record = .ok value → (get record).isSome = true)
    : Obeys IsAt complete (part name get put read) ⟨name, demanded, Refuses⟩ := by
  refine keeping_obeys ?_ required
  rintro ⟨path, _⟩ node rfl refused
  exact refuses _ refused path

theorem part_sets {other : Field (Path × Node) ρ}
    (sets
      : ∀ record value,
          other.isSet (put record value) = (decide (name = other.name) || other.isSet record))
    (held : Path × Node) (record : ρ)
    : Ensures ((part name get put read).read held record) fun later =>
        other.isSet later = (decide (name = other.name) || other.isSet record) :=
  keeping_sets sets held record

end Parts

section Texts

variable {ρ : Type} {name : String} {get : ρ → Option String} {put : ρ → String → ρ}
  (around : Surroundings) (expected : String)

theorem textPart_reads {among : List String → ρ} {said : String} {mayOmit : Prop}
    (kept : ∀ done, get (among done) = amongRead done name said)
    (puts : ∀ done, put (among done) said = among (name :: done))
    : Reads IsAt among (part name get put (text around expected)) ⟨name, (·.Spells said), mayOmit⟩ :=
  part_reads kept puts fun _ spells path => text_of_spells around expected path spells

theorem textPart_obeys {β : Type} {complete : ρ → Except Mismatch β} {demanded : Prop}
    (required
      : demanded → ∀ record value, complete record = .ok value → (get record).isSome = true)
    : Obeys IsAt complete (part name get put (text around expected))
        ⟨name, demanded, Node.IsCollection⟩ :=
  part_obeys (fun _ collection path => text_fails around expected path collection) required

end Texts

end ModeSwitch
