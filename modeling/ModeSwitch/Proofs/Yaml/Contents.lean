import ModeSwitch.Proofs.Yaml.Records

/-! What contents keep of nodes.

A content keeps what an untagged node spells, so a field that is read from a content is read as it
would be from the node.
-/

namespace ModeSwitch.Yaml

/-- A content keeps a node.  What comes of an alias or of a tag is not said. -/
inductive Content.Keeps : Content → Node → Prop where
  | scalar (start : Position) (anchor : Option Nat) (style : Style) (text : String)
    : Keeps (.scalar (spelledMeaning style text)) (.scalar start ⟨anchor, none⟩ style text)
  | taggedScalar (start : Position) (anchor : Option Nat) (tag : TagText) (style : Style)
    (text : String) (content : Content)
    : Keeps content (.scalar start ⟨anchor, some tag⟩ style text)
  | sequence (start : Position) (properties : Properties) {items : List Node}
    {contents : List Content} (each : List.Forall₂ Keeps contents items)
    : Keeps (.list contents) (.sequence start properties items)
  | mapping (start : Position) (properties : Properties) (entries : List (Node × Node))
    (contents : List (Content × Content))
    : Keeps (.map contents) (.mapping start properties entries)
  | elsewhere (start : Position) (anchor : Nat) (content : Content)
    : Keeps content (.alias start anchor)
  | void (start : Position) (content : Content) : Keeps content (.void start)
  | missing (content : Content) : Keeps content .missing

namespace Decode

section Contents

variable (around : Surroundings) (expected : String) {node : Node}

theorem keptMeaning_ensures (anchor : Option Nat) (style : Style) (text : String)
    : Ensures (keptMeaning expected ⟨anchor, none⟩ style text) (· = spelledMeaning style text) := by
  have meaning : ofCheck (scalarMeaning ⟨anchor, none⟩ style text)
      = (pure (spelledMeaning style text) : Decode Meaning) :=
    rfl
  rw [keptMeaning, meaning, pure_bind]
  split
  · split
    · exact ensures_pure rfl
    · exact ensures_refuse _
  · exact ensures_pure rfl

theorem eachFrom_ensures {α : Type} {item : Path → Node → Decode α} {Holds : α → Node → Prop}
    (each : ∀ path node, Ensures (item path node) (Holds · node)) (path : Path) (index : Nat)
    (nodes : List Node)
    : Ensures (eachFrom item path index nodes) (List.Forall₂ Holds · nodes) := by
  induction nodes generalizing index with
  | nil => exact ensures_pure .nil
  | cons node rest ih =>
      refine (each _ node).bind fun value holds => ?_
      exact (ih (index + 1)).bind fun values hold => ensures_pure (.cons holds hold)

theorem contentStep_ensures {inside : Option (Path → Node → Decode Content)}
    (each
      : ∀ item, inside = some item → ∀ path node, Ensures (item path node) (Content.Keeps · node))
    (path : Path) (node : Node)
    : Ensures (contentStep around expected inside path node) (Content.Keeps · node) := by
  cases node with
  | «alias» start anchor => exact fun _ content _ _ => .elsewhere start anchor content
  | void start => exact fun _ content _ _ => .void start content
  | missing => exact fun _ content _ _ => .missing content
  | scalar start properties style text =>
      obtain ⟨anchor, tag⟩ := properties
      -- A tag may give the text another meaning, or none.
      cases tag with
      | some tag => exact fun _ content _ _ => .taggedScalar start anchor tag style text content
      | none =>
          unfold contentStep
          simp only [follow, pure_bind]
          refine Ensures.located _ _ ?_
          split
          · exact ensures_refuse _
          · refine (keptMeaning_ensures expected anchor style text).bind ?_
            rintro meaning rfl
            exact ensures_pure (.scalar start anchor style text)
  | sequence start properties items =>
      unfold contentStep
      simp only [follow, pure_bind]
      refine Ensures.located _ _ ?_
      split
      · exact ensures_refuse _
      · cases inside with
        | none => exact ensures_throw _
        | some item =>
            refine (eachFrom_ensures (each item rfl) path 0 items).bind fun contents keep => ?_
            exact ensures_pure (.sequence start properties keep)
  | mapping start properties entries =>
      unfold contentStep
      simp only [follow, pure_bind]
      refine Ensures.located _ _ ?_
      split
      · exact ensures_refuse _
      · cases inside with
        | none => exact ensures_throw _
        | some item =>
            refine ensures_bind fun contents => ?_
            exact ensures_pure (.mapping start properties entries contents)

/-- What is kept of a node is its content, by induction on the depth to which it is read. -/
theorem content_ensures (depth : Nat) (path : Path) (node : Node)
    : Ensures (content around depth path node) (Content.Keeps · node) := by
  induction depth generalizing path node with
  | zero => exact contentStep_ensures around _ (fun item none => by cases none) path node
  | succ depth ih =>
      refine contentStep_ensures around _ ?_ path node
      rintro item ⟨⟩
      exact ih

theorem contentStep_of_spells (inside : Option (Path → Node → Decode Content)) (path : Path)
    {text : String} (spells : node.Spells text)
    : contentStep around expected inside path node = pure (.scalar (.text text)) := by
  cases spells with
  | scalar start anchor style means =>
      have meaning : ofCheck (scalarMeaning ⟨anchor, none⟩ style text)
          = (pure (.text text) : Decode Meaning) :=
        congrArg pure means
      unfold contentStep
      simp only [follow, pure_bind, keptMeaning, meaning]
      rfl

/-- A text has the same content at every depth. -/
theorem content_of_spells (depth : Nat) (path : Path) {text : String} (spells : node.Spells text)
    : content around depth path node = pure (.scalar (.text text)) := by
  cases depth with
  | zero => exact contentStep_of_spells around _ none path spells
  | succ depth => exact contentStep_of_spells around _ _ path spells

theorem content_of_lists (depth : Nat) (path : Path) {texts : List String}
    (lists : node.Lists Node.Spells texts)
    : content around (depth + 1) path node
      = pure (.list (texts.map fun text => .scalar (.text text))) := by
  cases lists with
  | sequence start anchor each =>
      rename_i items
      have each : List.Forall₂
          (fun node content => ∀ path, Decode.content around depth path node = pure content) items
          (texts.map fun text => .scalar (.text text)) := by
        rw [List.forall₂_map_right_iff]
        exact each.imp fun node text spells path => content_of_spells around depth path spells
      unfold content contentStep
      simp only [follow, pure_bind, eachFrom_eq_pure each]
      rfl

end Contents

/-! ## Reading contents -/

section Reading

variable {content : Content} {node : Node}

theorem contentText_of_keeps (keeps : content.Keeps node) {text : String}
    (spells : node.Spells text)
    : contentText content = pure text := by
  cases spells with
  | scalar start anchor style means =>
      cases keeps with
      | scalar =>
          rw [means]
          rfl

/-- No text can be taken from the content of anything but a text. -/
theorem contentText_fails (keeps : content.Keeps node) (other : node.MeansNoText)
    : Fails (contentText content) := by
  cases other with
  | scalar start anchor style text other =>
      cases keeps with
      | scalar =>
          unfold contentText
          split
          · rename_i said same
            exact (other said (Content.scalar.inj same)).elim
          · exact ensures_refuse _
  | collection collection =>
      cases collection with
      | sequence start properties items =>
          cases keeps
          exact ensures_refuse _
      | mapping start properties entries =>
          cases keeps
          exact ensures_refuse _

theorem mapM_contentText_of_keeps {contents : List Content} {items : List Node}
    {texts : List String} (keep : List.Forall₂ Content.Keeps contents items)
    (spell : List.Forall₂ Node.Spells items texts)
    : contents.mapM contentText = pure texts := by
  induction keep generalizing texts with
  | nil =>
      cases spell
      rfl
  | cons keeps _ ih =>
      cases spell with
      | cons spells spell =>
          simp only [List.mapM_cons, contentText_of_keeps keeps spells, ih spell, pure_bind]

theorem mapM_contentText_fails {contents : List Content} {items : List Node}
    (keep : List.Forall₂ Content.Keeps contents items) {item : Node} (member : item ∈ items)
    (other : item.MeansNoText)
    : Fails (contents.mapM contentText) := by
  induction keep with
  | nil => cases member
  | cons keeps _ ih =>
      rw [List.mapM_cons]
      rcases List.mem_cons.mp member with rfl | member
      · exact (contentText_fails keeps other).bind
      · exact ensures_bind fun _ => (ih member).bind

theorem contentTexts_of_keeps (keeps : content.Keeps node) {texts : List String}
    (lists : node.Lists Node.Spells texts)
    : contentTexts content = pure texts := by
  cases lists with
  | sequence start anchor spell =>
      cases keeps with
      | sequence _ _ keep => exact mapM_contentText_of_keeps keep spell

/-- No list of texts can be taken from the content of anything else. -/
theorem contentTexts_fails (keeps : content.Keeps node) (breaks : node.BreaksList Node.MeansNoText)
    : Fails (contentTexts content) := by
  cases breaks with
  | item start properties member other =>
      cases keeps with
      | sequence _ _ keep => exact mapM_contentText_fails keep member other
  | mapping start properties entries =>
      cases keeps
      exact ensures_refuse _
  | scalar said =>
      cases said with
      | scalar start anchor style filled =>
          cases keeps
          exact ensures_refuse _

end Reading

end Decode

end ModeSwitch.Yaml
