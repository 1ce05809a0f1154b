import SqlBridge.Proofs.Adapter.Stored
import SqlBridge.Proofs.CommandLine.Reading

/-!
The documents that the program writes: the compact ones that are stored for lists and objects, and
the indented ones that commands print. Given as a parameter, each is read as the value that it was
written for.
-/

namespace SqlBridge

open Document

/-- A text of ASCII characters that a parameter reads as a value. -/
structure StandsFor (text : String) (v : Value) : Prop where
  reads : CommandLine.readParam text = v
  ascii : IsAscii text.toList

theorem standsFor_of_keeps (indent : Option ℕ) {v : Value} (hv : keeps v = true) {tail : List Char}
    (hnumber : endsNumber tail = true) (hblank : skip tail = []) (htail : IsAscii tail) :
    StandsFor (String.ofList (write indent 0 v ++ tail)) v where
  reads := by rw [CommandLine.readParam, read_write indent hv hnumber hblank]
  ascii := by
    rw [← keepsWithin_maxDigits] at hv
    rw [String.toList_ofList]
    exact (InLayout.write indent v hv 0).isAscii.append htail

theorem standsFor_compact {v : Value} (hv : keeps v = true) : StandsFor (compact v) v := by
  have hstands : StandsFor (String.ofList (write none 0 v ++ [])) v :=
    standsFor_of_keeps none hv rfl rfl .nil
  simpa [compact] using hstands

theorem standsFor_indented {v : Value} (hv : keeps v = true) : StandsFor (indented v) v := by
  have hstands : StandsFor (String.ofList (write (some 2) 0 v ++ [])) v :=
    standsFor_of_keeps (some 2) hv rfl rfl .nil
  simpa [indented] using hstands

/-- The line feed after a printed document is skipped. -/
theorem standsFor_line {v : Value} (hv : keeps v = true) :
    StandsFor (CommandLine.line (indented v)) v := by
  have hline : CommandLine.line (indented v) =
      String.ofList (write (some 2) 0 v ++ ['\n']) := by
    rw [String.ofList_append]
    rfl
  rw [hline]
  exact standsFor_of_keeps (some 2) hv rfl rfl (.cons (by decide) .nil)

namespace Adapter

/-- The parameter that is bound for a value: a document for a list or an object, and any other value
itself. -/
inductive Stored : Value → Value → Prop
  | document {text : String} {v : Value} (hv : v.isContainer = true) (h : StandsFor text v) :
    Stored (.text text) v
  | scalar {v : Value} (hv : v.isContainer = false) : Stored v v

theorem stored_bound {v : Value} (hv : keeps v = true) : Stored (bound v) v := by
  unfold bound
  cases hcontainer : v.isContainer with
  | true => exact .document hcontainer (standsFor_compact hv)
  | false => exact .scalar hcontainer

end Adapter

namespace CommandLine

open Adapter
open Remote (Client QueryResult Wire)

/-- The document of a result set with its metadata. -/
def resultDocument (r : QueryResult) : Value :=
  .object [("results", .list (r.rows.map .object)), ("meta", .object r.metadata)]

/-- Stored and printed documents are read back as the values they were written for. -/
theorem documents_read_back :
    (∀ v, keeps v = true → StandsFor (compact v) v ∧ StandsFor (indented v) v) ∧
    (∀ {σ : Type} (answer : Executor σ) (dbg : Bool) (source : MapperSource) (m : Schema.Mapper)
      (o : Operation) (w : World σ), source.resolve = .ok m →
        ∃ calls, ((o.task dbg source).run answer w).2.calls = w.calls ++ calls ∧
          ∀ call rest, dataCalls calls = call :: rest →
            ∃ values stored more, o.given = .ok values ∧ call.params = stored ++ more ∧
              ((∀ v ∈ values, keeps v = true) → List.Forall₂ Stored stored values)) ∧
    (∀ (host : Host) (s : Settings) (client : Client) (sql : String) (params : List String)
      (w w' : Wire) (r : QueryResult), Client.ofSettings host.addressFault? s = .ok client →
        client.executeSql sql (params.map readParam) w = (.ok r, w') →
          keeps (resultDocument r) = true →
            ∃ text, (Command.query sql params true).execute host s w = (.print text, [], w') ∧
              StandsFor text (resultDocument r)) ∧
    ∀ (host : Host) (s : Settings) (client : Client) (table : String) (filter : Option String)
      (fields : Fields Value) (w : Wire) (world : World Wire) (r : Reply),
      Client.ofSettings host.addressFault? s = .ok client →
        readObject queryOption.name (filter.getD "") = .ok fields →
          readRecords client s.debug (.findAll (.object fields)) table w = (.ok r, world) →
            keeps r.data = true →
              ∃ text, (Command.findAll table filter true).execute host s w =
                  (.print text, world.log, world.remote) ∧
                StandsFor text r.data := by
  refine ⟨fun v hv => ⟨standsFor_compact hv, standsFor_indented hv⟩, ?_, ?_, ?_⟩
  · intro σ answer dbg source m o w hm
    obtain ⟨calls, hcalls, hstores⟩ := stores_sent answer dbg hm o w
    refine ⟨calls, hcalls, fun call rest hdata => ?_⟩
    obtain ⟨values, more, hgiven, hparams⟩ := hstores call rest hdata
    refine ⟨values, values.map bound, more, hgiven, hparams, fun hkeeps => ?_⟩
    rw [List.forall₂_map_left_iff, List.forall₂_same]
    exact fun v hv => stored_bound (hkeeps v hv)
  · intro host s client sql params w w' r hclient hrun hkeeps
    refine ⟨line (indented (resultDocument r)), ?_, standsFor_line hkeeps⟩
    simp only [Command.execute, withClient, hclient, hrun]
    rfl
  · intro host s client table filter fields w world r hclient hfilter hrun hkeeps
    refine ⟨line (indented r.data), ?_, standsFor_line hkeeps⟩
    simp only [Command.execute, hfilter, withClient, hclient, hrun]
    rfl

/-- Empty containers, a negative number, a character beyond the basic plane, control characters and
characters that are escaped. -/
def nestedValue : Value :=
  .object [("\"\\\n", .list [.text "\x00\x7fé😀/", .int (-40), .list [], .object []]), ("", .null),
    ("a", .object [("b", .bool true)])]

def archiveMapper : Schema.Mapper := ⟨"Note", "id", none, []⟩

def archiveRecord : Value := .object [("doc", nestedValue), ("n", .int 1)]

def archiveWorld : World Unit := newWorld () false false ["note"]

def silentRemote : Executor Unit := fun _ _ => (.ok .empty, ())

/-- A catalog of one table, and then its one row. -/
def archiveWire : Wire :=
  .ofReplies [.response 200 (compact (rowBody [("name", .text "note")])),
    .response 200 (compact (rowBody [("doc", nestedValue)]))]

theorem documents_read_back_nested :
    (StandsFor (compact nestedValue) nestedValue ∧ StandsFor (indented nestedValue) nestedValue) ∧
    (∃ call stored, (((Operation.create archiveRecord).task false (.ready archiveMapper)).run
        silentRemote archiveWorld).2.calls = [call] ∧
      stored <+: call.params ∧ List.Forall₂ Stored stored [nestedValue, .int 1]) ∧
    (∃ text w, (Command.query "SELECT 1" ["2"] true).execute bareHost openSettings archiveWire =
        (.print text, [], w) ∧
      StandsFor text (.object [("results", .list [.object [("name", .text "note")]]),
        ("meta", .object [])])) ∧
    ∃ text log w, (Command.findAll "note" none true).execute bareHost openSettings archiveWire =
        (.print text, log, w) ∧
      StandsFor text (.list [.object [("doc", nestedValue)]]) := by
  obtain ⟨hlayouts, hstored, hquery, hfound⟩ := documents_read_back
  have hresult : ∀ sql, Client.resultOf sql (Client.nextReply archiveWire) =
      .ok ⟨[[("name", .text "note")]], [], none, []⟩ := fun sql =>
    Client.resultOf_compact (rowBody [("name", .text "note")]) (by decide) rfl rfl
  have hclient : Client.ofSettings bareHost.addressFault? openSettings = .ok openClient := rfl
  refine ⟨hlayouts nestedValue (by decide), ?_, ?_, ?_⟩
  · obtain ⟨calls, hcalls, hfirst⟩ :=
      hstored silentRemote false (.ready archiveMapper) archiveMapper (.create archiveRecord)
        archiveWorld rfl
    cases hcalls
    obtain ⟨values, stored, more, hgiven, hparams, hkept⟩ := hfirst _ _ rfl
    cases hgiven
    exact ⟨_, stored, rfl, ⟨more, hparams.symm⟩, hkept (by decide)⟩
  · have hrequest : openClient.requestOf ⟨"SELECT 1", ["2"].map readParam⟩ = .ok _ := rfl
    obtain ⟨log, hsent⟩ := Client.executeSql_sent hrequest archiveWire
    rw [hresult] at hsent
    obtain ⟨text, hprinted, htext⟩ := hquery bareHost openSettings openClient "SELECT 1" ["2"]
      archiveWire _ _ hclient hsent (by decide)
    exact ⟨text, _, hprinted, htext⟩
  · have hwritten : Criteria.read "note" (.object []) = .ok _ := rfl
    have hrequest : openClient.requestOf ⟨"SELECT * \nFROM note", []⟩ = .ok _ := rfl
    obtain ⟨after, hrun⟩ :=
      exists_readRecords_findAll (isOpen_of_ofSettings hclient) (hresult _) rfl
      (by simp [QueryResult.tableNames, Value.field, Fields.get?, Value.truthy]) hwritten hrequest
      (Client.resultOf_compact (rowBody [("doc", nestedValue)]) (by decide) rfl rfl) false
    obtain ⟨text, hprinted, htext⟩ := hfound bareHost openSettings openClient "note" none []
      archiveWire _ _ hclient rfl hrun (by decide)
    exact ⟨text, _, _, hprinted, htext⟩

end CommandLine

end SqlBridge
