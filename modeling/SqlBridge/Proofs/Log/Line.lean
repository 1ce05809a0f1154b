import SqlBridge.Log.Format
import SqlBridge.Proofs.Document.RoundTrip
import SqlBridge.Proofs.Outcome

/-!
Log records in their document form. A record has four layers of fields, and later layers overwrite
earlier ones: level, logger and message, the attributes that a caller promoted, the fields of a
nested `extra`, and the exception with the stack. The document form is one line of printable
characters, and reading it yields under each name the value of the last layer with this name. It
does not exist for a record that shows a whole number beyond the digit limit.
-/

namespace SqlBridge.Log

/-- The fields of a nested object; any other value has none. -/
def nestedFields : Value → Fields Value
  | .object fields => fields
  | _ => []

/-- The exception and the stack of a record, if it has them. -/
def troubleFields (exception : Option String) (stack : Value) : Fields Value :=
  (exception.map fun text => ("exc_info", Value.text text)).toList ++
    if stack.truthy then [("stack_info", stack)] else []

/-- The fields of every record: its level, its logger and its message. -/
def saidFields (level logger : Value) (message : String) : Fields Value :=
  [("level", level), ("logger", logger), ("message", .text message)]

theorem nodup_keys_troubleFields (exception : Option String) (stack : Value) :
    (troubleFields exception stack).keys.Nodup := by
  unfold troubleFields
  cases exception <;> split <;> simp [Fields.keys]

theorem nodup_keys_saidFields (level logger : Value) (message : String) :
    (saidFields level logger message).keys.Nodup := by
  simp [saidFields, Fields.keys]

namespace Record

/-- A record before any attribute is set. -/
def made (logger level : String) (template : Value) (arguments : Option Arguments)
    (exception : Option String) (stack : Value) : Record :=
  ⟨.text logger, .text level, template, arguments, [], .null, exception, stack⟩

/-- The object of a record is the merge of its layers. -/
theorem payload_eq {r : Record} {message : String} (h : r.message = .ok message) :
    r.payload = .ok ((((saidFields r.level r.logger message).merge r.promoted).merge
      (nestedFields r.nested)).merge (troubleFields r.exception r.stack)) := by
  rw [payload, h, Outcome.ok_bind]
  obtain ⟨logger, level, template, arguments, promoted, nested, exception, stack⟩ := r
  cases nested <;> cases exception <;> cases hstack : stack.truthy <;>
    simp only [hstack, nestedFields, troubleFields] <;> rfl

/-- Names that are not standard attributes. -/
def Promotable (attributes : Fields Value) : Prop :=
  ∀ name ∈ attributes.keys, name ∉ standardAttributes ∧ name ∉ formattedAttributes

theorem Promotable.tail {field : String × Value} {rest : Fields Value}
    (h : Promotable (field :: rest)) : Promotable rest := fun name hname =>
  h name (List.mem_cons_of_mem _ hname)

/-- An attribute that is not a standard one is promoted, unless it is the nested one. -/
theorem set_of_not_standard {name : String} (hstandard : name ∉ standardAttributes)
    (hformatted : name ∉ formattedAttributes) (r : Record) (v : Value) :
    r.set name v =
      if name = "extra" then { r with nested := v }
      else { r with promoted := r.promoted.insert name v } := by
  have hother : ∀ standard ∈ standardAttributes, name ≠ standard := fun standard hmem h =>
    hstandard (h ▸ hmem)
  rw [set, if_neg (hother "name" (by decide)), if_neg (hother "levelname" (by decide)),
    if_neg (hother "msg" (by decide)), if_neg (hother "args" (by decide)),
    if_neg (hother "stack_info" (by decide))]
  simp [hstandard, hformatted]

/-- Setting attributes promotes all but the nested one. -/
theorem setAll_eq {attributes : Fields Value} (hnodup : attributes.keys.Nodup)
    (h : Promotable attributes) (r : Record) :
    r.setAll attributes =
      { r with
        promoted := r.promoted.merge (attributes.erase "extra")
        nested := (attributes.get? "extra").getD r.nested } := by
  induction attributes generalizing r with
  | nil => rfl
  | cons field rest ih =>
    obtain ⟨name, v⟩ := field
    obtain ⟨hnew, hrest⟩ := List.nodup_cons.mp hnodup
    obtain ⟨hstandard, hformatted⟩ := h name List.mem_cons_self
    have hset : r.setAll ((name, v) :: rest) = (r.set name v).setAll rest := rfl
    rw [hset, set_of_not_standard hstandard hformatted, ih hrest h.tail]
    by_cases hextra : name = "extra"
    · subst hextra
      have hnone : Fields.get? "extra" rest = none := Fields.get?_eq_none_iff.mpr hnew
      simp [Fields.get?, Fields.erase, hnone]
    · simp [Fields.get?, Fields.erase, hextra]

end Record

variable {limit : Option ℕ}

/-- Whether a reader reads back every value of an object. -/
def KeepsAll (limit : Option ℕ) (fields : Fields Value) : Prop :=
  ∀ field ∈ fields, Document.keepsWithin limit field.2 = true

theorem KeepsAll.merge {fields later : Fields Value} (h : KeepsAll limit fields)
    (hlater : KeepsAll limit later) : KeepsAll limit (fields.merge later) := fun field hfield =>
  (Fields.mem_merge hfield).elim (h field) (hlater field)

theorem KeepsAll.erase {fields : Fields Value} (h : KeepsAll limit fields) (name : String) :
    KeepsAll limit (fields.erase name) := fun field hfield =>
  h field (List.mem_of_mem_filter hfield)

theorem KeepsAll.said {level logger : Value} (hlevel : Document.keepsWithin limit level = true)
    (hlogger : Document.keepsWithin limit logger = true) (message : String) :
    KeepsAll limit (saidFields level logger message) := by
  simp [KeepsAll, saidFields, Document.keepsWithin, hlevel, hlogger]

theorem KeepsAll.trouble (exception : Option String) {stack : Value}
    (h : Document.keepsWithin limit stack = true) :
    KeepsAll limit (troubleFields exception stack) := by
  unfold KeepsAll troubleFields
  cases exception <;> split <;> simp [Document.keepsWithin, h]

/-- The fields of a nested value that is read back have distinct names and are read back. -/
theorem nestedFields_kept {nested : Value} (h : Document.keepsWithin limit nested = true) :
    (nestedFields nested).keys.Nodup ∧ KeepsAll limit (nestedFields nested) := by
  cases nested with
  | object fields => exact Document.keepsWithin_object_iff.mp h
  | _ => exact ⟨List.nodup_nil, by simp [KeepsAll, nestedFields]⟩

theorem keepsWithin_extra {attributes : Fields Value} (h : KeepsAll limit attributes) :
    Document.keepsWithin limit ((attributes.get? "extra").getD .null) = true := by
  cases hextra : attributes.get? "extra" with
  | none => rfl
  | some v => exact h _ (Fields.mem_of_get? hextra)

/-- The value of a name in the first of several layers that has it. -/
def firstOf (layers : List (Fields Value)) (name : String) : Option Value :=
  layers.findSome? (Fields.get? name)

/-- The merge of layers has under each name the value of the last layer with this name. -/
theorem get?_layers {said promoted nested trouble : Fields Value} (hpromoted : promoted.keys.Nodup)
    (hnested : nested.keys.Nodup) (htrouble : trouble.keys.Nodup) (name : String) :
    (((said.merge promoted).merge nested).merge trouble).get? name =
      firstOf [trouble, nested, promoted, said] name := by
  rw [Fields.get?_merge htrouble, Fields.get?_merge hnested, Fields.get?_merge hpromoted]
  simp only [firstOf, List.findSome?_cons, List.findSome?_nil]
  cases trouble.get? name <;> cases nested.get? name <;> cases promoted.get? name <;>
    cases said.get? name <;> rfl

/-- A text of printable characters on one line that is read as an object with these fields. -/
structure IsLineOf (limit : Option ℕ) (text : String) (field? : String → Option Value) : Prop where
  plain : ∀ c ∈ text.toList, Document.isPlain c = true
  read : ∃ fields : Fields Value, Document.readWith limit text.toList = .ok (.object fields) ∧
    fields.keys.Nodup ∧ ∀ name, fields.get? name = field? name

theorem isLineOf_compact {fields : Fields Value} (hnodup : fields.keys.Nodup)
    (hkept : KeepsAll limit fields) :
    IsLineOf limit (Document.compact (.object fields)) (Fields.get? · fields) := by
  have hkeeps : Document.keepsWithin limit (.object fields) = true :=
    Document.keepsWithin_object_iff.mpr ⟨hnodup, hkept⟩
  have hread : Document.readWith limit (Document.write none 0 (.object fields) ++ []) =
      .ok (.object fields) := Document.readWith_write none hkeeps rfl rfl
  rw [List.append_nil] at hread
  have htext : (Document.compact (.object fields)).toList =
      Document.write none 0 (.object fields) := String.toList_ofList
  exact ⟨htext ▸ (Document.InLayout.write none _ hkeeps 0).isPlain_of_none,
    fields, htext ▸ hread, hnodup, fun _ => rfl⟩

/-- Whether every field has document text. -/
def HasText (field? : String → Option Value) : Prop :=
  ∀ name v, field? name = some v → Document.writeFault? false v = none

theorem fieldsFault?_eq_none_of_hasText {fields : Fields Value} (hnodup : fields.keys.Nodup)
    (h : HasText (Fields.get? · fields)) : Document.fieldsFault? false fields = none :=
  Document.fieldsFault?_eq_none_iff.mpr fun field hfield =>
    h field.1 field.2 (Fields.get?_of_mem hnodup hfield)

theorem hasText_of_fieldsFault? {fields : Fields Value}
    (h : Document.fieldsFault? false fields = none) : HasText (Fields.get? · fields) :=
  fun _ _ hget => Document.fieldsFault?_eq_none_iff.mp h _ (Fields.mem_of_get? hget)

theorem hasText_firstOf {layers : List (Fields Value)}
    (h : ∀ layer ∈ layers, Document.fieldsFault? false layer = none) :
    HasText (firstOf layers) := by
  intro name v hfound
  obtain ⟨layer, hlayer, hget⟩ := List.exists_of_findSome?_eq_some hfound
  exact hasText_of_fieldsFault? (h layer hlayer) name v hget

/-- Layers whose numbers are within the digit limit have text. -/
theorem hasText_of_keepsAll {layers : List (Fields Value)}
    (h : ∀ layer ∈ layers, KeepsAll (some Document.maxDigits) layer) : HasText (firstOf layers) :=
  hasText_firstOf fun layer hlayer => Document.fieldsFault?_eq_none_iff.mpr fun field hfield =>
    (Document.keepsWithin_some_iff.mp (h layer hlayer field hfield)).2

/-- The text of an object whose values are read back without limit. It exists exactly if every field
has document text, and is a line of the fields. -/
theorem compact_of_keepsAll {fields : Fields Value} (hnodup : fields.keys.Nodup)
    (hkept : KeepsAll none fields) :
    (HasText (Fields.get? · fields) → checkShown (.object fields) = .ok () ∧
      IsLineOf (some Document.maxDigits) (Document.compact (.object fields))
        (Fields.get? · fields)) ∧
    (¬HasText (Fields.get? · fields) →
      checkShown (.object fields) = .error (.value (.unwritable .tooManyDigits))) := by
  constructor
  · intro htext
    have hfault := fieldsFault?_eq_none_of_hasText hnodup htext
    refine ⟨?_, isLineOf_compact hnodup fun field hfield => ?_⟩
    · rw [checkShown, Document.writeFault?, hfault]
    · exact Document.keepsWithin_some_iff.mpr
        ⟨hkept field hfield, Document.fieldsFault?_eq_none_iff.mp hfault field hfield⟩
  · intro htext
    cases hfault : Document.writeFault? false (.object fields) with
    | none => exact absurd (hasText_of_fieldsFault? hfault) htext
    | some fault =>
      rw [checkShown, hfault, Document.eq_tooManyDigits_of_writeFault? hfault]

/-- The document form of a record is a line of its layers, provided that what they show has text. -/
theorem Record.documentText_of_message {r : Record} {message : String}
    (hmessage : r.message = .ok message)
    (hlevel : Document.keepsWithin none r.level = true)
    (hlogger : Document.keepsWithin none r.logger = true) (hnodup : r.promoted.keys.Nodup)
    (hpromoted : KeepsAll none r.promoted) (hnested : Document.keepsWithin none r.nested = true)
    (hstack : Document.keepsWithin none r.stack = true) :
    let field? := firstOf [troubleFields r.exception r.stack, nestedFields r.nested, r.promoted,
      saidFields r.level r.logger message]
    (HasText field? → ∃ text, r.documentText = .ok text ∧
      IsLineOf (some Document.maxDigits) text field?) ∧
    (¬HasText field? → r.documentText = .error (.value (.unwritable .tooManyDigits))) := by
  intro field?
  obtain ⟨hnestedKeys, hnestedKept⟩ := nestedFields_kept hnested
  have htrouble := nodup_keys_troubleFields r.exception r.stack
  have hkeys := Fields.nodup_keys_merge (Fields.nodup_keys_merge (Fields.nodup_keys_merge
    (nodup_keys_saidFields r.level r.logger message) r.promoted) (nestedFields r.nested))
    (troubleFields r.exception r.stack)
  have hvalues := (((KeepsAll.said hlevel hlogger message).merge hpromoted).merge hnestedKept).merge
    (KeepsAll.trouble r.exception hstack)
  obtain ⟨hwritten, hrefused⟩ := compact_of_keepsAll hkeys hvalues
  simp only [get?_layers hnodup hnestedKeys htrouble] at hwritten hrefused
  rw [documentText, payload_eq hmessage, Outcome.ok_bind]
  constructor
  · intro htext
    obtain ⟨hchecked, hline⟩ := hwritten htext
    exact ⟨_, by rw [hchecked]; rfl, hline⟩
  · intro htext
    rw [hrefused htext]
    rfl

/-- The document form of a record exists if its message has a text and so has every field that it
shows, as all numbers within the digit limit have; otherwise it is the failure of a number beyond
the limit, or of the message. It is one line, and reading it yields an object with the layers of the
record: exception and stack take precedence over the nested fields, these over the promoted
attributes, and these over level, logger and message. -/
theorem line_of_record (logger level : String) (template : Value) (arguments : Option Arguments)
    (exception : Option String) {stack : Value} {attributes : Fields Value}
    (hnodup : attributes.keys.Nodup) (hnames : Record.Promotable attributes)
    (hkept : KeepsAll none attributes) (hstack : Document.keepsWithin none stack = true) :
    let r := Record.made logger level template arguments exception stack
    (arguments = none → Document.writeFault? false template = none →
      r.message = .ok template.shown) ∧
      (∀ f, r.message = .error f → (r.setAll attributes).documentText = .error f) ∧
      ∀ message, r.message = .ok message →
        let field? := firstOf [troubleFields exception stack,
          nestedFields ((attributes.get? "extra").getD .null), attributes.erase "extra",
          saidFields (.text level) (.text logger) message]
        (KeepsAll (some Document.maxDigits) attributes →
          Document.keepsWithin (some Document.maxDigits) stack = true → HasText field?) ∧
        (HasText field? → ∃ text, (r.setAll attributes).documentText = .ok text ∧
          IsLineOf (some Document.maxDigits) text field?) ∧
        (¬HasText field? →
          (r.setAll attributes).documentText = .error (.value (.unwritable .tooManyDigits))) := by
  intro r
  have herase := Fields.nodup_keys_erase hnodup "extra"
  have hpromoted : r.promoted.merge (attributes.erase "extra") = attributes.erase "extra" :=
    Fields.merge_of_nodup herase
  rw [Record.setAll_eq hnodup hnames, hpromoted]
  refine ⟨fun hnone htemplate => ?_, fun f hmessage => ?_, fun message hmessage =>
    ⟨fun hwithin hstackWithin => hasText_of_keepsAll ?_, ?_⟩⟩
  · subst hnone
    simp only [r, Record.made, Record.message, checkShown, htemplate]
    rfl
  · have hsame : ∀ promoted nested, ({ r with promoted, nested } : Record).message = r.message :=
      fun _ _ => rfl
    rw [Record.documentText, Record.payload, hsame, hmessage]
    rfl
  · have htrouble := KeepsAll.trouble exception hstackWithin
    have hnested := (nestedFields_kept (keepsWithin_extra hwithin)).2
    have hsaid : KeepsAll (some Document.maxDigits)
        (saidFields (.text level) (.text logger) message) := KeepsAll.said rfl rfl message
    exact List.forall_mem_cons.mpr ⟨htrouble, List.forall_mem_cons.mpr ⟨hnested,
      List.forall_mem_cons.mpr ⟨hwithin.erase "extra", List.forall_mem_singleton.mpr hsaid⟩⟩⟩
  · exact Record.documentText_of_message
      (r := { r with
        promoted := attributes.erase "extra"
        nested := (attributes.get? "extra").getD .null })
      hmessage rfl rfl herase (hkept.erase "extra") (keepsWithin_extra hkept) hstack

/-- Attributes with names of the other layers. -/
def collidingAttributes : Fields Value :=
  [("level", .int 3), ("note", .text "é\n"),
   ("extra", .object [("note", .null), ("message", .list []), ("exc_info", .bool true)])]

/-- A record with all four layers and names in common. -/
theorem line_of_colliding_record :
    ∃ text field?,
      ((Record.made "log" "INFO" (.text "a\nb") none (some "ValueError: \"é\"")
        (.text "Stack:\n  f")).setAll collidingAttributes).documentText = .ok text ∧
      IsLineOf (some Document.maxDigits) text field? ∧
      field? "level" = some (.int 3) ∧ field? "logger" = some (.text "log") ∧
      field? "message" = some (.list []) ∧ field? "note" = some .null ∧
      field? "exc_info" = some (.text "ValueError: \"é\"") ∧
      field? "stack_info" = some (.text "Stack:\n  f") ∧ field? "extra" = none := by
  have hnames : Record.Promotable collidingAttributes := by
    unfold Record.Promotable
    decide
  have hkept : KeepsAll none collidingAttributes := by
    unfold KeepsAll
    decide
  obtain ⟨-, -, hline⟩ := line_of_record "log" "INFO" (.text "a\nb") none
    (some "ValueError: \"é\"") (by decide) hnames hkept
    (by decide : Document.keepsWithin _ (.text "Stack:\n  f") = true)
  obtain ⟨hwithin, hwritten, -⟩ := hline _ rfl
  have hdigits : KeepsAll (some Document.maxDigits) collidingAttributes := by
    unfold KeepsAll
    decide
  obtain ⟨text, htext, hread⟩ := hwritten (hwithin hdigits (by decide))
  exact ⟨text, _, htext, hread, rfl, rfl, rfl, rfl, rfl, rfl, rfl⟩

end SqlBridge.Log
