import SqlBridge.Proofs.CommandLine.Reading
import SqlBridge.Proofs.Remote.Secrecy
import SqlBridge.Proofs.Settings.Token

/-!
Programs that differ in their token. Two tokens of ASCII characters with the same first four
characters have the same observable behaviour: output, errors and exit code of every command line,
the log, and the answers of clients and adapters. The requests differ in their authorization only.
The report of a failure that leaves the program is the command line library's. It is the same if it
shows no local variables; the construction of a client has the token as one.
-/

namespace SqlBridge

namespace Remote.Client

variable {s : Settings} {token : String}

/-- A token of ASCII characters can be sent in a header. -/
theorem nonAscii?_authorization (h : ∀ c ∈ token.toList, Text.isAscii c = true) :
    nonAscii? (authorization token) = none := by
  have hheader : ∀ c ∈ (authorization token).toList, Text.isAscii c = true := by
    intro c hc
    rw [authorization, String.toList_append, List.mem_append] at hc
    exact hc.elim (List.all_eq_true.mp (by decide : "Bearer ".toList.all Text.isAscii) c) (h c)
  rw [nonAscii?, List.dropWhile_eq_nil_iff.mpr hheader]

/-- If the header accepts both tokens or neither, the construction of a client has the same outcome.
-/
theorem ofSettings_withToken
    (h : nonAscii? (authorization token) = nonAscii? (authorization s.apiToken))
    (check : String → Option String) :
    ofSettings check (s.withToken token) = (ofSettings check s).map (·.withToken token) := by
  have hurl : (s.withToken token).databaseUrl = s.databaseUrl := rfl
  have htoken : (s.withToken token).apiToken = token := rfl
  simp only [ofSettings, ofAddress, hurl, htoken, h]
  cases check (Settings.dropLastSlashes s.databaseUrl) with
  | some message => rfl
  | none => cases nonAscii? (authorization s.apiToken) <;> rfl

end Remote.Client

namespace CommandLine

open Remote

/-- The effect of a command whose requests were sent under another token. -/
def Effect.underToken (token : String) (e : Effect) : Effect := (e.1, e.2.1, e.2.2.underToken token)

/-- The command line library shows no local variables in its report of a failure, so the report does
not depend on the settings. -/
def Host.HidesLocals (host : Host) : Prop :=
  ∀ settings settings' f, host.report settings f = host.report settings' f

/-- A run and the same run under another token. The errors are the same if the program prints them
itself, and in a failure that leaves it if the command line library shows no local variables. -/
structure RunResult.Repeated (host : Host) (token : String) (ran ran' : RunResult) : Prop where
  output : ran'.ending.output = ran.ending.output
  result : ran'.ending.result = ran.ending.result
  completed : ∀ code, ran.ending.result = .ok code → ran'.ending = ran.ending
  ending : host.HidesLocals → ran'.ending = ran.ending
  configuration : ran'.configuration = ran.configuration
  log : ∀ time, ran'.logTexts time = ran.logTexts time
  wire : ran'.wire = ran.wire.underToken token

/-- An ending has an exit code and errors that the program prints itself, or the failure leaves the
program. -/
theorem ending_cases (p : Progress) :
    (∃ errors code, ∀ report, p.ending report = ⟨p.output, errors, .ok code⟩) ∨
      ∃ f, ∀ report, p.ending report = ⟨p.output, report f, .error f⟩ := by
  unfold Progress.ending
  split
  · exact .inl ⟨_, _, fun _ => rfl⟩
  · exact .inl ⟨_, _, fun _ => rfl⟩
  · next f _ _ =>
    by_cases hreported : f.isReported = true
    · simp only [hreported, if_true]
      exact .inl ⟨_, _, fun _ => rfl⟩
    · simp only [hreported]
      exact .inr ⟨f, fun _ => rfl⟩

/-- The effect of a command under another token has the same ending, except for the report of a
failure that leaves the program. -/
theorem repeated_ofEffect (host : Host) (settings settings' : Option Settings)
    (configuration : Log.Configuration) (token : String) (e : Effect) :
    RunResult.Repeated host token (.ofEffect host settings configuration e)
      (.ofEffect host settings' configuration (e.underToken token)) := by
  suffices hending : (e.1.ending (host.report settings')).output =
        (e.1.ending (host.report settings)).output ∧
      (e.1.ending (host.report settings')).result = (e.1.ending (host.report settings)).result ∧
      (∀ code, (e.1.ending (host.report settings)).result = .ok code →
        e.1.ending (host.report settings') = e.1.ending (host.report settings)) ∧
      (host.HidesLocals →
        e.1.ending (host.report settings') = e.1.ending (host.report settings)) by
    obtain ⟨houtput, hresult, hcompleted, hhidden⟩ := hending
    exact ⟨houtput, hresult, hcompleted, hhidden, rfl, fun _ => rfl, rfl⟩
  rcases ending_cases e.1 with ⟨errors, code, hsame⟩ | ⟨f, hleft⟩
  · simp only [hsame, implies_true, and_self]
  · simp only [hleft, Ending.mk.injEq, reduceCtorEq, false_implies, implies_true, true_and,
      and_true]
    exact fun hhides => hhides settings' settings f

variable {s : Settings} {token : String}

theorem readRecords_withToken (client : Client) (token : String) (debug : Bool)
    (operation : Adapter.Operation) (table : String) (w : Wire) :
    readRecords (client.withToken token) debug operation table (w.underToken token) =
      ((readRecords client debug operation table w).1,
        (readRecords client debug operation table w).2.image (Wire.underToken token)) := by
  have hmirrors := client.mirrors_withToken token
  have hwait : Adapter.waitSeeded (client.withToken token).executor
      (Adapter.newWorld (w.underToken token) false true []) = _ :=
    Adapter.waitSeeded_image hmirrors (Adapter.newWorld w false true [])
  simp only [readRecords, hwait]
  rcases Adapter.waitSeeded client.executor (Adapter.newWorld w false true []) with
    ⟨f | u, world⟩
  · rfl
  · exact Task.run_image hmirrors _ world

/-- The line of the settings depends on the token through its hint only. -/
theorem settingsLine_withToken
    (hhint : tokenHint token = tokenHint s.apiToken) :
    settingsLine (s.withToken token) = settingsLine s := by
  unfold settingsLine
  have htoken : tokenHint (s.withToken token).apiToken = tokenHint s.apiToken := hhint
  rw [htoken]
  rfl

/-- Settings and another token with the same hint and the same verdict of the header. -/
structure Alike (s : Settings) (token : String) : Prop where
  hint : tokenHint token = tokenHint s.apiToken
  header : Client.nonAscii? (Client.authorization token) =
    Client.nonAscii? (Client.authorization s.apiToken)

theorem withClient_withToken (h : Alike s token) (host : Host) (w : Wire) {k k' : Client → Effect}
    (hk : ∀ client, k' (client.withToken token) = (k client).underToken token) :
    withClient host (s.withToken token) (w.underToken token) k' =
      (withClient host s w k).underToken token := by
  unfold withClient
  rw [Client.ofSettings_withToken h.header]
  cases Client.ofSettings host.addressFault? s with
  | error f => rfl
  | ok client => exact hk client

/-- The effect of a command under the other token. -/
theorem execute_withToken (h : Alike s token) (host : Host) (command : Command) (w : Wire) :
    command.execute host (s.withToken token) (w.underToken token) =
      (command.execute host s w).underToken token := by
  have hread : ∀ (operation : Adapter.Operation) (table : String)
      (print : Outcome Adapter.Reply → Progress),
      withClient host (s.withToken token) (w.underToken token) (fun client =>
          let answer := readRecords client (s.withToken token).debug operation table
            (w.underToken token)
          (print answer.1, answer.2.log, answer.2.remote)) =
        (withClient host s w fun client =>
          let answer := readRecords client s.debug operation table w
          (print answer.1, answer.2.log, answer.2.remote)).underToken token := by
    intro operation table print
    refine withClient_withToken h host w fun client => ?_
    have hdebug : (s.withToken token).debug = s.debug := rfl
    simp only [hdebug, readRecords_withToken]
    rfl
  cases command with
  | info =>
    simp only [Command.execute, settingsLine_withToken h.hint]
    rfl
  | tables =>
    refine withClient_withToken h host w fun client => ?_
    simp only [Client.listTables_withToken]
    rfl
  | query sql params asDocument =>
    refine withClient_withToken h host w fun client => ?_
    simp only [Client.executeSql_withToken]
    rfl
  | findAll table filter asDocument =>
    simp only [Command.execute]
    cases readObject queryOption.name (filter.getD "") with
    | error f => rfl
    | ok fields => exact hread _ table _
  | count table filter =>
    simp only [Command.execute]
    cases readObject queryOption.name (filter.getD "") with
    | error f => rfl
    | ok fields => exact hread _ table _
  | createTable table schema idAttribute =>
    simp only [Command.execute]
    cases provisioning table schema idAttribute with
    | error f => rfl
    | ok sql =>
      refine withClient_withToken h host w fun client => ?_
      simp only [Client.executeSql_withToken]
      rfl

theorem setUp_withToken (s : Settings) (token : String) :
    setUp (.ok (s.withToken token)) = (setUp (.ok s)).map fun x => (x.1.withToken token, x.2) := by
  have hlevel : Log.Configuration.initial.configure (.text (s.withToken token).logLevel)
      (s.withToken token).logJson true =
    Log.Configuration.initial.configure (.text s.logLevel) s.logJson true := rfl
  unfold setUp
  rw [Outcome.ok_bind, Outcome.ok_bind, hlevel]
  cases Log.Configuration.initial.configure (.text s.logLevel) s.logJson true <;> rfl

/-- The run of a command line under the other token. -/
theorem run_withToken (h : Alike s token) (host : Host) (words : List String) (w : Wire) :
    RunResult.Repeated host token (run host (.ok s) words w)
      (run host (.ok (s.withToken token)) words (w.underToken token)) := by
  unfold run
  rw [setUp_withToken]
  rcases Invocation.read words with f | _ | ⟨name, words⟩
  · exact repeated_ofEffect host _ _ _ token (.fail f, [], w)
  · exact repeated_ofEffect host _ _ _ token (.print "", [], w)
  · rcases setUp_cases s with hf | ⟨configuration, hconfigured⟩
    · simp only [hf, Outcome.map_error]
      exact repeated_ofEffect host _ _ _ token (.fail _, [], w)
    · have heffect : executeWords host (s.withToken token) name words (w.underToken token) =
          (executeWords host s name words w).underToken token := by
        unfold executeWords
        rcases Command.read host.files name words with f | _ | command
        · rfl
        · rfl
        · exact execute_withToken h host command w
      simp only [hconfigured, Outcome.map_ok, heffect]
      exact repeated_ofEffect host _ _ configuration token _

/-- Tokens of more than four characters with the same first four have the same hint. -/
theorem tokenHint_eq {token token' : String} (hlong : 4 < token.length) (hlong' : 4 < token'.length)
    (hstart : token.toList.take 4 = token'.toList.take 4) : tokenHint token' = tokenHint token := by
  have hgiven : ∀ t : String, 4 < t.length → t.isEmpty = false := by
    intro t ht
    by_contra hempty
    rw [Bool.not_eq_false, String.isEmpty_iff] at hempty
    rw [hempty] at ht
    exact absurd ht (by decide)
  unfold tokenHint
  rw [hgiven token hlong, hgiven token' hlong', hstart]

/-- Tokens of ASCII characters that are longer than four characters and have the same first four are
indistinguishable. Sources that differ in such a token have the same issues, or both give settings;
every command line is repeated with the same output, errors, result and log; the construction of
every client has the same outcome, and every run of a client, or of an adapter over it, has the same
answers, calls, tables and records. The requests differ in their authorization only. -/
theorem token_never_shows {token token' : String}
    (hascii : ∀ c ∈ token.toList, Text.isAscii c = true)
    (hascii' : ∀ c ∈ token'.toList, Text.isAscii c = true) (hlong : 4 < token.length)
    (hlong' : 4 < token'.length) (hstart : token.toList.take 4 = token'.toList.take 4)
    {s s' : Settings.Sources} (hsources : s.Twins token token' s') :
    ∃ other,
      Settings.read s' = (Settings.read s).map (·.withToken other) ∧
      (∀ host words replies, RunResult.Repeated host other
        (run host (ofChecked (Settings.read s)) words (.ofReplies replies))
        (run host (ofChecked (Settings.read s')) words (.ofReplies replies))) ∧
      (∀ x, Settings.read s = .ok x → ∀ check,
        Client.ofSettings check (x.withToken other) =
          (Client.ofSettings check x).map (·.withToken other)) ∧
      (∀ (client : Client) steps replies,
        Client.runAll steps (client.withToken other) (.ofReplies replies) =
          (Client.runAll steps client (.ofReplies replies)).map fun y =>
            (y.1, y.2.underToken other)) ∧
      ∀ (client : Client) steps (start : Adapter.Session Wire),
        Adapter.runAll (Adapter.served (client.withToken other).executor) steps
            (start.image (Wire.underToken other)) =
          (Adapter.runAll (Adapter.served client.executor) steps start).map fun y =>
            (y.1, y.2.image (Wire.underToken other)) := by
  -- Either the token is not read at all, or the settings differ in it.
  have hread : ∃ other, Settings.read s' = (Settings.read s).map (·.withToken other) ∧
      ∀ x, Settings.read s = .ok x → Alike x other := by
    rcases Settings.read_twins hsources with hsame | ⟨hother, htoken⟩
    · cases hx : Settings.read s with
      | error issues => exact ⟨token, by rw [hsame, hx]; rfl, fun _ h => nomatch h⟩
      | ok x =>
        refine ⟨x.apiToken, by rw [hsame, hx]; rfl, fun y hy => ?_⟩
        cases hy
        exact ⟨rfl, rfl⟩
    · refine ⟨token', hother, fun x hx => ?_⟩
      have hheader : Client.nonAscii? (Client.authorization token') =
          Client.nonAscii? (Client.authorization token) := by
        rw [Client.nonAscii?_authorization hascii, Client.nonAscii?_authorization hascii']
      rw [← htoken x hx] at hheader
      exact ⟨by rw [htoken x hx]; exact tokenHint_eq hlong hlong' hstart, hheader⟩
  obtain ⟨other, hother, halike⟩ := hread
  refine ⟨other, hother, fun host words replies => ?_,
    fun x hx check => Client.ofSettings_withToken (halike x hx).header check,
    fun client steps replies => client.runAll_withToken other steps (.ofReplies replies),
    fun client steps start => Adapter.runAll_image
      (Adapter.mirrors_served (client.mirrors_withToken other)) steps start⟩
  rw [hother]
  cases hx : Settings.read s with
  | error issues =>
    unfold run
    rcases Invocation.read words with f | _ | ⟨name, words⟩
    · exact repeated_ofEffect host _ _ _ other (.fail f, [], .ofReplies replies)
    · exact repeated_ofEffect host _ _ _ other (.print "", [], .ofReplies replies)
    · exact repeated_ofEffect host _ _ _ other (.fail (.invalid issues), [], .ofReplies replies)
  | ok x => exact run_withToken (halike x hx) host words (.ofReplies replies)

/-- An environment with a token under a name in lower case. -/
def environmentWith (token : String) : Settings.Sources :=
  ⟨[], [("LOG_LEVEL", "DEBUG"), ("d1_api_token", token)], []⟩

theorem twins_environmentWith (token token' : String) :
    (environmentWith token).Twins token token' (environmentWith token') := by
  have hname : Settings.isTokenName "d1_api_token" = true := by decide +kernel
  exact ⟨.nil, .cons ⟨rfl, .inl rfl⟩ (.cons ⟨rfl, .inr ⟨hname, rfl, rfl⟩⟩ .nil), .nil⟩

theorem token_never_shows_in_tables :
    (∀ c ∈ "abcd-first".toList, Text.isAscii c = true) ∧
      (∀ c ∈ "abcdefgh".toList, Text.isAscii c = true) ∧
      4 < "abcd-first".length ∧ 4 < "abcdefgh".length ∧
      "abcd-first".toList.take 4 = "abcdefgh".toList.take 4 ∧
      (Settings.read (environmentWith "abcd-first")).toOption.map (·.apiToken) =
        some "abcd-first" ∧
      (Settings.read (environmentWith "abcdefgh")).toOption.map (·.apiToken) = some "abcdefgh" ∧
      ∀ replies,
        (run bareHost (ofChecked (Settings.read (environmentWith "abcdefgh"))) ["tables"]
            (.ofReplies replies)).ending =
          (run bareHost (ofChecked (Settings.read (environmentWith "abcd-first"))) ["tables"]
            (.ofReplies replies)).ending := by
  have hascii : ∀ c ∈ "abcd-first".toList, Text.isAscii c = true := List.all_eq_true.mp (by decide)
  have hascii' : ∀ c ∈ "abcdefgh".toList, Text.isAscii c = true := List.all_eq_true.mp (by decide)
  have hlong : 4 < "abcd-first".length := by decide
  have hlong' : 4 < "abcdefgh".length := by decide
  have hstart : "abcd-first".toList.take 4 = "abcdefgh".toList.take 4 := by decide
  obtain ⟨other, -, hruns, -⟩ :=
    token_never_shows hascii hascii' hlong hlong' hstart (twins_environmentWith _ _)
  exact ⟨hascii, hascii', hlong, hlong', hstart, by decide +kernel, by decide +kernel,
    fun replies => (hruns bareHost ["tables"] replies).ending fun _ _ _ => rfl⟩

end CommandLine

end SqlBridge
