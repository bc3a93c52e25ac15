import Mathlib
import ModeSwitch.Proofs.Config.Devices
import ModeSwitch.Proofs.Config.Encoding
import ModeSwitch.Proofs.Config.Loading

/-! Descriptions that are written and read back.

However a description is written, it is read back as it was, and then only validation has a say.  A
tree that breaks a rule of descriptions is not read at all.
-/

namespace ModeSwitch.Config

open Yaml Decode

variable {config : Config} {node : Node}

/-- A tree is read as a description, wherever it stands, and so is a text that holds it alone. -/
structure ReadsAs (node : Node) (config : Config) : Prop where
  decoded : ∀ around path, decode around path node = pure config
  held : ofDocument ⟨node, none, true⟩ = .ok config
  parsed
    : ∀ text,
        Document.ofText text = ⟨node, none, true⟩
        → parse text
          = match config.validate with
            | .error fault => .error (.fault fault)
            | .ok () => .ok config

/-- A tree is refused, wherever it stands, and so is every text that begins with it. -/
structure Refused (node : Node) : Prop where
  undecoded : ∀ around path, Fails (decode around path node)
  refused : ∀ failure isLast, ∃ cause, ofDocument ⟨node, failure, isLast⟩ = .error cause
  unparsed
    : ∀ text, (Document.ofText text).root = node → ∃ cause, parse text = .error (.decode cause)

/-- A document that holds nothing but what writes a description holds the description. -/
theorem ofDocument_of_writes (writes : node.WritesRecord config.forms)
    : ofDocument ⟨node, none, true⟩ = .ok config := by
  unfold ofDocument
  rw [decode_eq_pure _ writes]
  rfl

/-- However a document goes on, it holds no description if its root breaks a rule. -/
theorem ofDocument_of_breaks {document : Document} (breaks : document.root.BreaksRecord rules)
    : ∃ cause, ofDocument document = .error cause := by
  obtain ⟨cause, failed⟩ := (decode_fails document.surroundings breaks []).exists_cause 0
  exact ⟨cause, by simp only [ofDocument, failed]⟩

theorem readsAs_of_writes (writes : node.WritesRecord config.forms) : ReadsAs node config where
  decoded around path := decode_eq_pure around writes path
  held := ofDocument_of_writes writes
  parsed _ holds := parseBy_of_decoded (by rw [ofText, holds, ofDocument_of_writes writes])

theorem refused_of_breaks (breaks : node.BreaksRecord rules) : Refused node where
  undecoded around path := decode_fails around breaks path
  refused failure isLast := ofDocument_of_breaks breaks
  unparsed text holds := by
    subst holds
    obtain ⟨cause, refused⟩ := ofDocument_of_breaks breaks
    exact ⟨cause, parseBy_of_undecoded refused⟩

/-! ## A fan in a text of one line -/

section Fan

def entryAt (column : Nat) (name : String) (value : Node) : NamedEntry Node Node :=
  ⟨name, .scalar ⟨column, 0, column⟩ .none .plain name, value⟩

def quotedAt (column : Nat) (text : String) : Node :=
  .scalar ⟨column, 0, column⟩ .none .quoted text

def countedAt (column : Nat) (number : UInt32) : Node :=
  .scalar ⟨column, 0, column⟩ .none .plain (toString number.toNat)

def recordAt (column : Nat) (entries : List (NamedEntry Node Node)) : Node :=
  .mapping ⟨column, 0, column⟩ .none (entries.map NamedEntry.pair)

theorem entryAt_spells {column : Nat} {name : String} {value : Node}
    (means : spelledMeaning .plain name = .text name)
    : (entryAt column name value).key.Spells (entryAt column name value).name :=
  .scalar _ _ _ means

theorem quotedAt_spells (column : Nat) (text : String) : (quotedAt column text).Spells text :=
  .scalar _ _ _ rfl

theorem countedAt_counts (column : Nat) (number : UInt32)
    : (countedAt column number).Counts number :=
  .scalar _ _

def fanNotification : Notification :=
  ⟨7, "On", "B", "device_settings"⟩

def fanSpec : ToggleSpec :=
  ⟨"fan", "Fan", ⟨"/f"⟩, ⟨"y", "n"⟩, some fanNotification⟩

/-- A fan whose notification is posted and withdrawn by programs without arguments. -/
def fan : Config :=
  ⟨"Fan", .command ⟨"p", [], "w", []⟩, [fanSpec]⟩

/-- The id stands between the texts, and what a tap opens is left out. -/
def fanNotice : List (NamedEntry Node Node) :=
  [entryAt 59 "title" (quotedAt 66 "On"), entryAt 72 "id" (countedAt 76 7),
    entryAt 79 "body" (quotedAt 85 "B")]

/-- The path comes first, and the tokens come last. -/
def fanToggle : List (NamedEntry Node Node) :=
  [entryAt 20 "path" (quotedAt 26 "/f"), entryAt 32 "key" (quotedAt 37 "fan"),
    entryAt 44 "notification" (recordAt 58 fanNotice), entryAt 91 "title" (quotedAt 98 "Fan"),
    entryAt 105 "disabled_token" (quotedAt 121 "n"), entryAt 126 "enabled_token" (quotedAt 141 "y")]

/-- The type stands between the programs, and the arguments are left out. -/
def fanService : List (NamedEntry Node Node) :=
  [entryAt 171 "withdraw_command" (quotedAt 189 "w"), entryAt 194 "type" (quotedAt 200 "command"),
    entryAt 211 "post_command" (quotedAt 225 "p")]

/-- The name comes last, and a field is added. -/
def fanDevice : List (NamedEntry Node Node) :=
  [entryAt 9 "toggles" (.sequence ⟨18, 0, 18⟩ .none [recordAt 19 fanToggle]),
    entryAt 148 "spare" (quotedAt 155 "s"), entryAt 160 "notifier" (recordAt 170 fanService),
    entryAt 231 "name" (quotedAt 237 "Fan")]

def namelessDevice : List (NamedEntry Node Node) :=
  [entryAt 9 "toggles" (.sequence ⟨18, 0, 18⟩ .none [])]

theorem fanNotice_writes : (recordAt 58 fanNotice).WritesRecord fanNotification.forms := by
  have names : namesOf fanNotice = ["title", "id", "body"] := rfl
  refine .mapping _ _ ⟨?spelled, by decide, ?written, ?omitted, ?additional⟩
  case spelled =>
    simp only [fanNotice, List.forall_mem_cons]
    exact ⟨entryAt_spells rfl, entryAt_spells rfl, entryAt_spells rfl, List.forall_mem_nil _⟩
  case written =>
    simp [fanNotice, entryAt, Notification.forms, textForm]
    exact ⟨countedAt_counts _ _, quotedAt_spells _ _, quotedAt_spells _ _⟩
  case omitted =>
    simp [names, fanNotification, Notification.forms, textForm, Notification.defaultTapTarget]
  case additional => simp [fanNotice, entryAt, Notification.forms, textForm]

theorem fanToggle_writes : (recordAt 19 fanToggle).WritesRecord fanSpec.forms := by
  have names
      : namesOf fanToggle
        = ["path", "key", "notification", "title", "disabled_token", "enabled_token"] :=
    rfl
  refine .mapping _ _ ⟨?spelled, by decide, ?written, ?omitted, ?additional⟩
  case spelled =>
    simp only [fanToggle, List.forall_mem_cons]
    exact ⟨entryAt_spells rfl, entryAt_spells rfl, entryAt_spells rfl, entryAt_spells rfl,
      entryAt_spells rfl, entryAt_spells rfl, List.forall_mem_nil _⟩
  case written =>
    simp [fanToggle, entryAt, ToggleSpec.forms, textForm]
    exact ⟨quotedAt_spells _ _, quotedAt_spells _ _, quotedAt_spells _ _, quotedAt_spells _ _,
      quotedAt_spells _ _, fanNotice_writes⟩
  case omitted => simp [names, ToggleSpec.forms, textForm]
  case additional => simp [fanToggle, entryAt, ToggleSpec.forms, textForm]

theorem fanService_writes : (recordAt 170 fanService).WritesRecord fan.notifier.forms := by
  have names : namesOf fanService = ["withdraw_command", "type", "post_command"] := rfl
  refine .mapping _ _ ⟨?spelled, by decide, ?written, ?omitted, ?additional⟩
  case spelled =>
    simp only [fanService, List.forall_mem_cons]
    exact ⟨entryAt_spells rfl, entryAt_spells rfl, entryAt_spells rfl, List.forall_mem_nil _⟩
  case written =>
    simp [fanService, fan, entryAt, NotifierChoice.forms, NotifierChoice.form, TaggedKind.form,
      NotifierChoice.tagging, CommandService.forms, textForm]
    exact ⟨⟨"command", quotedAt_spells _ _, rfl⟩, quotedAt_spells _ _, quotedAt_spells _ _⟩
  case omitted =>
    simp [names, fan, NotifierChoice.forms, NotifierChoice.form, TaggedKind.form,
      NotifierChoice.tagging, CommandService.forms, textForm]
  case additional =>
    simp [fanService, fan, entryAt, NotifierChoice.forms, NotifierChoice.form, TaggedKind.form,
      NotifierChoice.tagging, CommandService.forms, textForm]

theorem fanDevice_writes : (recordAt 8 fanDevice).WritesRecord fan.deviceForms := by
  have names : namesOf fanDevice = ["toggles", "spare", "notifier", "name"] := rfl
  refine .mapping _ _ ⟨?spelled, by decide, ?written, ?omitted, ?additional⟩
  case spelled =>
    simp only [fanDevice, List.forall_mem_cons]
    exact ⟨entryAt_spells rfl, entryAt_spells rfl, entryAt_spells rfl, entryAt_spells rfl,
      List.forall_mem_nil _⟩
  case written =>
    simp [fanDevice, entryAt, deviceForms, textForm]
    exact ⟨quotedAt_spells _ _, fanService_writes, .sequence _ _ (.cons fanToggle_writes .nil)⟩
  case omitted => simp [names, deviceForms, textForm]
  case additional =>
    simp [fanDevice, entryAt, deviceForms, textForm]
    exact ⟨_, quotedAt_spells _ _⟩

theorem fan_writes
    : (recordAt 0 [entryAt 0 "device" (recordAt 8 fanDevice)]).WritesRecord fan.forms := by
  refine .mapping _ _ ⟨?spelled, by decide, ?written, ?omitted, ?additional⟩
  case spelled => exact List.forall_mem_singleton.mpr (entryAt_spells rfl)
  case written => simpa [entryAt, forms] using fanDevice_writes
  case omitted => simp [entryAt, namesOf, forms]
  case additional => simp [entryAt, forms]

theorem nameless_breaks
    : (recordAt 0 [entryAt 0 "device" (recordAt 8 namelessDevice)]).BreaksRecord rules := by
  have unnamed : BreakFields deviceRules namelessDevice :=
    .missing (textRule "name") (by simp [deviceRules]) trivial (by decide)
  refine .mapping _ _ (List.forall_mem_singleton.mpr (entryAt_spells rfl)) ?_
  refine .refused _ (List.mem_singleton_self _) _ (List.mem_singleton_self _) rfl ?_
  exact .mapping _ _ (List.forall_mem_singleton.mpr (entryAt_spells rfl)) unnamed

end Fan

/-! ## The round trip -/

/-- Decoding undoes encoding: every description can be written, whatever writes a description is read
back as it, and whatever breaks a rule of descriptions is refused. -/
theorem decoding_undoes_encoding
    : (∀ config : Config, config.encode.WritesRecord config.forms)
      ∧ (∀ (config : Config) (node : Node), node.WritesRecord config.forms → ReadsAs node config)
      ∧ ∀ node : Node, node.BreaksRecord rules → Refused node :=
  ⟨encode_writes, fun _ _ => readsAs_of_writes, fun _ => refused_of_breaks⟩

/-- The fan is read back from a text with its fields in another order, some left out and one added.
A device without a name is refused. -/
theorem fan_reads_back
    : let text :=
        "device: \x7btoggles: [\x7bpath: '/f', key: 'fan', notification: \x7btitle: 'On', id: 7, "
          ++ "body: 'B'\x7d, title: 'Fan', disabled_token: 'n', enabled_token: 'y'\x7d], "
          ++ "spare: 's', notifier: \x7bwithdraw_command: 'w', type: 'command', "
          ++ "post_command: 'p'\x7d, name: 'Fan'\x7d"
      let nameless := "device: \x7btoggles: []\x7d"
      (Document.ofText text).root.WritesRecord fan.forms
      ∧ parse text = .ok fan
      ∧ (Document.ofText nameless).root.BreaksRecord rules
      ∧ ∃ cause, parse nameless = .error (.decode cause) := by
  intro text nameless
  have held : Document.ofText text
      = ⟨recordAt 0 [entryAt 0 "device" (recordAt 8 fanDevice)], none, true⟩ := by
    dsimp only [text]
    set_option maxRecDepth 20000 in conv => lhs; cbv
    rfl
  have lacking : Document.ofText nameless
      = ⟨recordAt 0 [entryAt 0 "device" (recordAt 8 namelessDevice)], none, true⟩ := by
    dsimp only [nameless]
    set_option maxRecDepth 20000 in cbv
  have reads := decoding_undoes_encoding.2.1 fan _ fan_writes
  have refused := decoding_undoes_encoding.2.2 _ nameless_breaks
  refine ⟨held ▸ fan_writes, ?_, lacking ▸ nameless_breaks, ?_⟩
  · exact reads.parsed text held
  · exact refused.unparsed nameless (by rw [lacking])

end ModeSwitch.Config
