import BankLedger.Proofs.Postgres.Breakage
import BankLedger.Proofs.Postgres.Question
import BankLedger.Proofs.Postgres.Role
import BankLedger.Text.Blank

/-!
# Reading identifiers back

A server that reads a delimited identifier goes on to the first quote that is not doubled, and takes
each doubled one for a quote.  Quotes in a name are doubled, so a run of quotes inside the
identifier is even, while the closing quote stands alone: whatever a name is made of, the reader
closes the identifier at its end and has the name.  So the statement that assumes a role has one
identifier, which is the role, and nothing of the role is read as anything else.
-/

namespace BankLedger.Postgres

open BankLedger.Database BankLedger.Sql BankLedger.Text

/-! ## Delimited identifiers -/

/-- Reads a delimited identifier from behind its opening quote: the name, and what follows the first
quote that is not doubled. -/
def takeName : List Char → Option (List Char × List Char)
  | [] => none
  | '"' :: '"' :: rest => (takeName rest).map fun (name, after) => ('"' :: name, after)
  | '"' :: rest => some ([], rest)
  | character :: rest => (takeName rest).map fun (name, after) => (character :: name, after)

/-- Reads a delimited identifier: the name, and what follows the closing quote. -/
def readDelimited : List Char → Option (List Char × List Char)
  | '"' :: rest => takeName rest
  | _ => none

theorem takeName_quotes (rest : List Char) :
    takeName ('"' :: '"' :: rest) =
      (takeName rest).map fun (name, after) => ('"' :: name, after) := by
  rw [takeName]

theorem takeName_cons {character : Char} (plain : character ≠ '"') (rest : List Char) :
    takeName (character :: rest) =
      (takeName rest).map fun (name, after) => (character :: name, after) := by
  simp [takeName, plain]

/-- A quote that is not doubled closes the identifier. -/
theorem takeName_quote {rest : List Char} (alone : rest.head? ≠ some '"') :
    takeName ('"' :: rest) = some ([], rest) := by
  cases rest with
  | nil => rfl
  | cons next rest =>
      have other : next ≠ '"' := by
        rintro rfl
        exact alone rfl
      simp [takeName, other]

theorem doubleQuote_quote : doubleQuote '"' = ['"', '"'] := rfl

theorem doubleQuote_of_ne {character : Char} (plain : character ≠ '"') :
    doubleQuote character = [character] := by
  simp [doubleQuote, plain]

/-- The reader pairs up the quotes of a name, however many follow each other, and stops at the one
that closes the identifier. -/
theorem takeName_flatMap (name : List Char) {rest : List Char} (alone : rest.head? ≠ some '"') :
    takeName (name.flatMap doubleQuote ++ '"' :: rest) = some (name, rest) := by
  induction name with
  | nil => exact takeName_quote alone
  | cons character name inductionHypothesis =>
      rw [List.flatMap_cons]
      by_cases quote : character = '"'
      case pos =>
        subst quote
        simp only [doubleQuote_quote, List.cons_append, List.nil_append, takeName_quotes,
          inductionHypothesis, Option.map_some]
      case neg =>
        simp only [doubleQuote_of_ne quote, List.cons_append, List.nil_append,
          takeName_cons quote, inductionHypothesis, Option.map_some]

/-- Whatever is read as a name was written as one. -/
theorem eq_of_takeName {text name rest : List Char} (taken : takeName text = some (name, rest)) :
    text = name.flatMap doubleQuote ++ '"' :: rest := by
  fun_induction takeName text generalizing name rest with
  | case1 => cases taken
  | case2 others inductionHypothesis =>
      simp only [Option.map_eq_some_iff, Prod.mk.injEq, Prod.exists] at taken
      obtain ⟨inner, _, found, rfl, rfl⟩ := taken
      rw [inductionHypothesis found]
      rfl
  | case3 others =>
      cases taken
      rfl
  | case4 character others notQuotes notQuote inductionHypothesis =>
      simp only [Option.map_eq_some_iff, Prod.mk.injEq, Prod.exists] at taken
      obtain ⟨inner, _, found, rfl, rfl⟩ := taken
      have plain : character ≠ '"' := notQuote
      rw [inductionHypothesis found, List.flatMap_cons, doubleQuote_of_ne plain]
      rfl

/-- A text is read as the identifier of a name, up to its end, exactly if it is that identifier. -/
theorem readDelimited_eq_some_iff {text : List Char} {name : String} :
    readDelimited text = some (name.toList, []) ↔ text = (quoteIdentifier name).toList := by
  rw [quoteIdentifier, String.toList_ofList, delimited]
  constructor
  · intro read
    rw [readDelimited.eq_def] at read
    split at read
    case h_1 rest => rw [eq_of_takeName read, List.cons_append]
    case h_2 => cases read
  · rintro rfl
    exact takeName_flatMap name.toList (by simp)

theorem quoteIdentifier_injective : Function.Injective quoteIdentifier := by
  intro name other same
  have read : readDelimited (quoteIdentifier name).toList = some (name.toList, []) :=
    readDelimited_eq_some_iff.mpr rfl
  have readToo : readDelimited (quoteIdentifier name).toList = some (other.toList, []) :=
    readDelimited_eq_some_iff.mpr (congrArg String.toList same)
  rw [read, Option.some.injEq, Prod.mk.injEq] at readToo
  exact String.toList_inj.mp readToo.1

/-! ## Tokens of a statement -/

/-- A part of a statement that assumes a role. -/
inductive Token
  | keyword (word : String)
  | identifier (name : String)
  | symbol (character : Char)
deriving DecidableEq

/-- A character that a key word or an identifier without quotes may start with. -/
def startsWord (character : Char) : Bool :=
  character.isAlpha || character == '_' || 0x7F < character.toNat

/-- A character that may stand in a key word or in an identifier without quotes. -/
def continuesWord (character : Char) : Bool :=
  startsWord character || character.isDigit || character == '$'

/-- The key words of the statement. -/
def keywords : List (List Char) :=
  ["SET".toList, "ROLE".toList]

/-- What a word stands for: letter case matters neither in a key word nor in an identifier. -/
def Token.ofWord (word : List Char) : Token :=
  if word.map Char.toUpper ∈ keywords then .keyword (String.ofList (word.map Char.toUpper))
  else .identifier (String.ofList (word.map Char.toLower))

theorem length_takeName {text name rest : List Char} (taken : takeName text = some (name, rest)) :
    rest.length < text.length := by
  rw [eq_of_takeName taken, List.length_append, List.length_cons]
  omega

/-- The tokens of a statement, none if a delimited identifier does not end. -/
def tokens? : List Char → Option (List Token)
  | [] => some []
  | '"' :: rest =>
      match _taken : takeName rest with
      | none => none
      | some (name, after) => (tokens? after).map (.identifier (String.ofList name) :: ·)
  | character :: rest =>
      if isAsciiBlank character then tokens? rest
      else if startsWord character then
        (tokens? (rest.dropWhile continuesWord)).map
          (Token.ofWord (character :: rest.takeWhile continuesWord) :: ·)
      else (tokens? rest).map (.symbol character :: ·)
termination_by text => text.length
decreasing_by
  · have := length_takeName _taken
    simp only [List.length_cons]
    omega
  · simp only [List.length_cons]
    omega
  · have := (List.dropWhile_sublist continuesWord (l := rest)).length_le
    simp only [List.length_cons]
    omega
  · simp only [List.length_cons]
    omega

/-- A delimited identifier is one token, whatever is in it. -/
theorem tokens?_delimited (name : String) {rest : List Char} (alone : rest.head? ≠ some '"') :
    tokens? ((quoteIdentifier name).toList ++ rest) =
      (tokens? rest).map (.identifier name :: ·) := by
  have written : (quoteIdentifier name).toList ++ rest =
      '"' :: (name.toList.flatMap doubleQuote ++ '"' :: rest) := by
    simp [quoteIdentifier, delimited]
  have taken := takeName_flatMap name.toList alone
  rw [written, tokens?]
  split
  · next failed =>
    rw [taken] at failed
    cases failed
  · next found =>
    rw [taken] at found
    cases found
    rw [String.ofList_toList]

theorem tokens?_blank {blank : Char} (isBlank : isAsciiBlank blank = true) (rest : List Char) :
    tokens? (blank :: rest) = tokens? rest := by
  have noQuote : blank ≠ '"' := by
    rintro rfl
    cases isBlank
  rw [tokens?, isBlank]
  · rfl
  · exact noQuote

theorem isAsciiBlank_of_startsWord {character : Char} (starts : startsWord character = true) :
    isAsciiBlank character = false := by
  refine eq_false_of_ne_true fun blank => ?_
  simp only [isAsciiBlank, Bool.or_eq_true, beq_iff_eq] at blank
  rcases blank with (((rfl | rfl) | rfl) | rfl) | rfl <;> cases starts

/-- A word ends at the first character that cannot stand in one. -/
theorem tokens?_word {first next : Char} {word rest : List Char} (starts : startsWord first = true)
    (continues : ∀ character ∈ word, continuesWord character = true)
    (ends : continuesWord next = false) :
    tokens? (first :: word ++ next :: rest) =
      (tokens? (next :: rest)).map (Token.ofWord (first :: word) :: ·) := by
  have noQuote : first ≠ '"' := by
    rintro rfl
    cases starts
  have taken : (word ++ next :: rest).takeWhile continuesWord = word := by
    rw [List.takeWhile_append_of_pos continues, List.takeWhile_cons_of_neg (by simp [ends]),
      List.append_nil]
  have dropped : (word ++ next :: rest).dropWhile continuesWord = next :: rest := by
    rw [List.dropWhile_append_of_pos continues, List.dropWhile_cons_of_neg (by simp [ends])]
  rw [List.cons_append, tokens?]
  · rw [isAsciiBlank_of_startsWord starts, starts, taken, dropped]
    rfl
  · exact noQuote

/-- The statement is read as its two key words and one identifier. -/
theorem tokens?_setRole (role : String) :
    tokens? (setRole role).toList =
      some [.keyword "SET", .keyword "ROLE", .identifier role] := by
  have written : (setRole role).toList =
      'S' :: ['E', 'T'] ++ ' ' :: ('R' :: ['O', 'L', 'E'] ++
        ' ' :: ((quoteIdentifier role).toList ++ [])) := by
    rw [setRole, String.toList_append, List.append_nil]
    rfl
  have letters {word : List Char} (inside : word.all continuesWord = true) :
      ∀ character ∈ word, continuesWord character = true := List.all_eq_true.mp inside
  rw [written, tokens?_word (by decide) (letters (by decide)) (by decide),
    tokens?_blank (by decide), tokens?_word (by decide) (letters (by decide)) (by decide),
    tokens?_blank (by decide), tokens?_delimited role (by simp), tokens?]
  rfl

/-! ## The statement of a session -/

namespace Session

variable {m : Type → Type} [Monad m] {World Line : Type}
variable (network : Network m Line) (execution : Execution m World)

theorem run_logIn_transcribing (credentials : Credentials) (line : Line) (transcript : Transcript)
    (world : World) :
    let outcome := execution.run (logIn network credentials line) world
    ∃ more, (execution.withState Transcript).run (logIn network.transcribing credentials line)
      (transcript, world) = (outcome.1, transcript ++ more, outcome.2) := by
  rw [logIn, logIn]
  cases (Login.greeting credentials).encode with
  | error failure =>
      refine ⟨[], ?_⟩
      rw [Execution.run_pure, Execution.run_pure, List.append_nil]
  | ok octets =>
      let drawn := execution.run network.freshNonces world
      have draws : (execution.withState Transcript).run network.transcribing.freshNonces
          (transcript, world) = (drawn.1, transcript, drawn.2) :=
        execution.run_liftM ..
      obtain ⟨more, same, _⟩ := network.run_ask_transcribing execution line octets
        (Login.dialogue credentials drawn.1) .initial [] transcript drawn.2
      refine ⟨.sent octets :: more, ?_⟩
      simp only [Execution.run_bind, draws, same, Execution.run_pure, drawn]

variable {network execution}

/-- A query with a transcript goes as it goes alone, and it has sent its octets if it ends well. -/
theorem run_query_transcribing_of_ok {session other : Session Line} {text : String}
    {parameters : List WireText} {result : QueryResult} {world after : World}
    (answered : execution.run (session.query network text parameters) world =
      ((.ok result, other), after)) (transcript : Transcript) :
    ∃ octets rest, ClientMessage.encodeAll (ClientMessage.ofQuery text parameters) = .ok octets ∧
      (execution.withState Transcript).run (session.query network.transcribing text parameters)
        (transcript, world) = ((.ok result, other), transcript ++ .sent octets :: rest, after) := by
  cases healthy : session.broken with
  | true =>
      rw [run_query_of_broken network execution _ _ _ healthy] at answered
      cases answered
  | false =>
      cases encodes : ClientMessage.encodeAll (ClientMessage.ofQuery text parameters) with
      | error failure =>
          rw [run_query_of_error healthy encodes] at answered
          cases answered
      | ok octets =>
          obtain ⟨rest, same, _⟩ := network.run_ask_transcribing execution session.line octets
            Reply.dialogue .initial session.unread transcript world
          rw [run_query_of_ok healthy encodes] at answered
          refine ⟨octets, rest, rfl, ?_⟩
          rw [run_query_of_ok healthy encodes]
          simp only [same]
          exact congrArg (fun ended => (ended.1, transcript ++ .sent octets :: rest, ended.2))
            answered

/-- A session that has assumed a role has sent the statement for it. -/
theorem run_assumeRole_transcribing {role : String} (configured : role.isEmpty = false)
    {session other : Session Line} {world after : World}
    (assumed : execution.run (session.assumeRole network role) world = (.ok other, after))
    (transcript : Transcript) :
    ∃ question rest,
      ClientMessage.encodeAll (ClientMessage.ofQuery (setRole role) []) = .ok question ∧
      (execution.withState Transcript).run (session.assumeRole network.transcribing role)
        (transcript, world) = (.ok other, transcript ++ .sent question :: rest, after) := by
  rw [assumeRole, configured, if_neg Bool.false_ne_true, Execution.run_bind] at assumed
  rw [assumeRole, configured, if_neg Bool.false_ne_true, Execution.run_bind]
  cases asked : execution.run (session.query network (setRole role) []) world with
  | mk answer between =>
      obtain ⟨outcome, left⟩ := answer
      rw [asked] at assumed
      cases outcome with
      | error failure =>
          rw [Execution.run_pure] at assumed
          cases assumed
      | ok result =>
          obtain ⟨question, rest, encodes, same⟩ := run_query_transcribing_of_ok asked transcript
          rw [same]
          refine ⟨question, rest, encodes, ?_⟩
          dsimp only at assumed ⊢
          cases reported : result.report with
          | some report =>
              rw [reported, Execution.run_pure] at assumed
              cases assumed
          | none =>
              rw [reported, Execution.run_pure] at assumed
              cases assumed
              exact Execution.run_pure ..

theorem run_begin_transcribing {credentials : Credentials}
    (configured : credentials.role.isEmpty = false) {line : Line} {session : Session Line}
    {world after : World}
    (begun : execution.run (begin network credentials line) world = (.ok session, after)) :
    ∃ login question rest,
      ClientMessage.encodeAll (ClientMessage.ofQuery (setRole credentials.role) []) =
        .ok question ∧
      (execution.withState Transcript).run (begin network.transcribing credentials line)
        ([], world) = (.ok session, login ++ .sent question :: rest, after) := by
  obtain ⟨login, logsIn⟩ := run_logIn_transcribing network execution credentials line [] world
  rw [begin, Execution.run_bind] at begun
  rw [begin, Execution.run_bind, logsIn]
  cases loggedIn : execution.run (logIn network credentials line) world with
  | mk outcome between =>
      rw [loggedIn] at begun
      cases outcome with
      | error failure =>
          rw [Execution.run_pure] at begun
          cases begun
      | ok opened =>
          obtain ⟨question, rest, encodes, assumes⟩ :=
            run_assumeRole_transcribing configured begun login
          exact ⟨login, question, rest, encodes, assumes⟩

/-- A session that was opened with a role to assume has sent the statement for it after the
login. -/
theorem run_connect_transcribing {credentials : Credentials}
    (configured : credentials.role.isEmpty = false) {session : Session Line} {world after : World}
    (opened : execution.run (connect network credentials) world = (.ok session, after)) :
    ∃ login question rest,
      ClientMessage.encodeAll (ClientMessage.ofQuery (setRole credentials.role) []) =
        .ok question ∧
      (execution.withState Transcript).run (connect network.transcribing credentials)
        ([], world) = (.ok session, login ++ .sent question :: rest, after) := by
  have dials : (execution.withState Transcript).run (dial network.transcribing credentials)
      ([], world) = ((execution.run (dial network credentials) world).1, [],
        (execution.run (dial network credentials) world).2) := by
    rw [dial, dial]
    split
    · rw [Execution.run_pure, Execution.run_pure]
    · exact execution.run_liftM ..
  rw [connect, Execution.run_bind] at opened
  rw [connect, Execution.run_bind, dials]
  cases dialled : execution.run (dial network credentials) world with
  | mk answer between =>
      rw [dialled] at opened
      cases answer with
      | error reason =>
          rw [Execution.run_pure] at opened
          cases opened
      | ok line =>
          dsimp only at opened ⊢
          rw [Execution.run_bind] at opened
          rw [Execution.run_bind]
          cases begun : execution.run (begin network credentials line) between with
          | mk outcome later =>
              rw [begun] at opened
              cases outcome with
              | error failure =>
                  dsimp only at opened
                  rw [Execution.run_bind, Execution.run_pure] at opened
                  cases opened
              | ok started =>
                  dsimp only at opened
                  rw [Execution.run_pure] at opened
                  cases opened
                  obtain ⟨login, question, rest, encodes, begins⟩ :=
                    run_begin_transcribing configured begun
                  refine ⟨login, question, rest, encodes, ?_⟩
                  rw [begins]
                  exact Execution.run_pure ..

/-- A role cannot break out of its quotes.  Read as a delimited identifier, the quoted name of a
role is one up to its end and stands for that name, and no other text is read so; therefore no two
names have the same quoted form.  The statement for a role is read as its two key words and one
identifier, which is the role.  And a session that was opened with a role to assume has sent just
that statement, without parameters. -/
theorem quoted_role_is_the_only_identifier (network : Network m Line)
    (execution : Execution m World) (role : String) :
    (∀ text, readDelimited text = some (role.toList, []) ↔ text = (quoteIdentifier role).toList) ∧
    Function.Injective quoteIdentifier ∧
    tokens? (setRole role).toList =
      some [.keyword "SET", .keyword "ROLE", .identifier role] ∧
    ∀ credentials session world after, credentials.role = role → role.isEmpty = false →
      execution.run (connect network credentials) world = (.ok session, after) →
      ∃ login question rest,
        (execution.withState Transcript).run (connect network.transcribing credentials)
          ([], world) = (.ok session, login ++ .sent question :: rest, after) ∧
        Request.all? question =
          some [.parse "" (setRole role) [], .bind "" "" [] [] [], .describe 'P' "",
            .execute "" 0, .sync] := by
  refine ⟨fun _ => readDelimited_eq_some_iff, quoteIdentifier_injective, tokens?_setRole role, ?_⟩
  rintro credentials session world after rfl configured opened
  obtain ⟨login, question, rest, encodes, same⟩ := run_connect_transcribing configured opened
  exact ⟨login, question, rest, same, Request.all?_of_encodeAll encodes⟩

/-- The role starts and ends with quotes, one of them doubled, and has a statement of its own in
it. -/
theorem quoted_role_is_the_only_identifier_of_quotes :
    let role := "\"a\"\"; RESET ROLE --\""
    let credentials : Credentials := ⟨"db", 5432, "bank", "ledger", "", role, none⟩
    let said : List Utterance :=
      [.parseComplete, .bindComplete, .noData, .commandComplete (Octets.ofText "SET")]
    let world := ScriptedNetwork.ofScripts
      [[Utterance.answer [.authenticated] 73, Utterance.answer said 73].map .send]
    let network := ScriptedNetwork.network ""
    setRole role = "SET ROLE \"\"\"a\"\"\"\"; RESET ROLE --\"\"\"" ∧
    readDelimited (quoteIdentifier role).toList = some (role.toList, []) ∧
    tokens? (setRole role).toList =
      some [.keyword "SET", .keyword "ROLE", .identifier role] ∧
    ∃ after, Execution.direct.run (connect network credentials) world =
        (.ok ⟨0, [], false⟩, after) ∧
      ∃ login question rest,
        (Execution.direct.withState Transcript).run (connect network.transcribing credentials)
          ([], world) = (.ok ⟨0, [], false⟩, login ++ .sent question :: rest, after) ∧
        Request.all? question =
          some [.parse "" (setRole role) [], .bind "" "" [] [] [], .describe 'P' "",
            .execute "" 0, .sync] := by
  intro role credentials said world network
  have prompt : credentials.connectTimeoutMs ≠ some 0 := nofun
  have configured : credentials.role.isEmpty = false := by decide
  obtain ⟨greeting, greets⟩ : ∃ octets, (Login.greeting credentials).encode = .ok octets :=
    ⟨_, rfl⟩
  have statement : setRole role = "SET ROLE \"\"\"a\"\"\"\"; RESET ROLE --\"\"\"" := by decide
  obtain ⟨question, asks⟩ : ∃ octets, ClientMessage.encodeAll
      (ClientMessage.ofQuery (setRole credentials.role) []) = .ok octets := by
    rw [statement]
    exact ⟨_, rfl⟩
  have formed : ∀ utterance ∈ [Utterance.authenticated], utterance.WellFormed := by decide
  have answerable : ∀ utterance ∈ said, utterance.WellFormed := by decide
  obtain ⟨after, opened⟩ := run_connect_of_scripted_role formed rfl greets prompt configured asks
    answerable (by decide) rfl (by decide)
  obtain ⟨reads, _, tokens, sends⟩ := quoted_role_is_the_only_identifier network .direct role
  exact ⟨statement, (reads _).mpr rfl, tokens, after, opened,
    sends credentials _ _ _ rfl configured opened⟩

end Session

end BankLedger.Postgres
