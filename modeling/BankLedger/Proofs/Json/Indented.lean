import BankLedger.Proofs.Json.Numbers
import BankLedger.Proofs.Json.Records

/-!
# Indented texts

A value is written with a member or an element on each line, and the lines are indented by the level
at which the value stands.  The level is of no account when the text is read: it only decides how
many blanks there are.
-/

namespace BankLedger.Json

variable {α β : Type} {reader : Reader α} {json : Json} {value : α}

/-- At whatever level a JSON value is written, the text is read as a value. -/
def ReadsBack (reader : Reader α) (json : Json) (value : α) : Prop :=
  ∀ level, Takes reader (json.indentedCharacters level) value

theorem ReadsBack.map (change : α → β) (reads : ReadsBack reader json value) :
    ReadsBack (do return change (← reader)) json (change value) := by
  intro level
  exact (reads level).map change

theorem gap_newLine (level : Nat) : Gap (newLine level) := by
  intro character member
  rcases List.mem_cons.mp member with rfl | blank
  · rfl
  · rw [List.eq_of_mem_replicate blank]
    rfl

theorem joinWith_cons (separator part : List Char) (parts : List (List Char)) :
    joinWith separator (part :: parts) = part ++ parts.flatMap (separator ++ ·) := by
  induction parts generalizing part with
  | nil => exact (List.append_nil part).symm
  | cons next others inductionHypothesis =>
      rw [joinWith, inductionHypothesis, List.flatMap_cons, List.append_assoc, List.append_assoc]
      intro same
      contradiction

/-- The text of a member after its opening quote. -/
def memberText (level : Nat) (name : String) (value : Json) : List Char :=
  name.toList.flatMap escapeCharacter ++ '"' :: ':' :: ' ' :: value.indentedCharacters level

theorem indentedMembers_cons (level : Nat) (name : String) (value : Json)
    (members : List (String × Json)) :
    indentedMembers level ((name, value) :: members) =
      ('"' :: memberText level name value) :: indentedMembers level members := by
  rw [indentedMembers, quote_append, memberText]

theorem takeName_memberText (level : Nat) (name : String) (value : Json) (rest : List Char) :
    takeName ('"' :: (memberText level name value ++ rest)) =
      .ok (name, ':' :: ' ' :: (value.indentedCharacters level ++ rest)) := by
  rw [memberText, List.append_assoc]
  exact (spelled_flatMap_escapeCharacter name.toList).takeName _

/-! ## Scalars -/

theorem readsBack_readInt64 (value : Int64) : ReadsBack readInt64 (.integer value.toInt) value := by
  intro level
  rw [indentedCharacters]
  exact takes_readInt64 value

theorem readsBack_readNatural (type : String) {greatest value : Nat} (fits : value ≤ greatest)
    (word : value ≤ wordLimit) :
    ReadsBack (readNatural type greatest) (.integer value) value := by
  intro level
  rw [indentedCharacters]
  exact takes_readNatural type fits word

/-! ## Objects -/

/-- The text of the members after another one, up to the end of their object. -/
def followingMembers (level : Nat) (members : List (String × Json)) : List Char :=
  (indentedMembers (level + 1) members).flatMap (',' :: newLine (level + 1) ++ ·) ++
    (newLine level ++ ['\x7d'])

theorem followingMembers_cons (level : Nat) (name : String) (value : Json)
    (members : List (String × Json)) :
    followingMembers level ((name, value) :: members) =
      ',' :: (newLine (level + 1) ++
        '"' :: (memberText (level + 1) name value ++ followingMembers level members)) := by
  rw [followingMembers, indentedMembers_cons, List.flatMap_cons, List.append_assoc,
    ← followingMembers]
  simp only [List.append_assoc, List.cons_append]

theorem indentedCharacters_object_cons (level : Nat) (name : String) (value : Json)
    (members : List (String × Json)) :
    (Json.object ((name, value) :: members)).indentedCharacters level =
      '\x7b' :: (newLine (level + 1) ++
        '"' :: (memberText (level + 1) name value ++ followingMembers level members)) := by
  rw [indentedCharacters, indentedBlock, if_neg (by simp [indentedMembers_cons]),
    indentedMembers_cons, joinWith_cons, followingMembers]
  simp only [List.append_assoc, List.cons_append]

theorem follows_followingMembers (level : Nat) (members : List (String × Json))
    (rest : List Char) : Follows (followingMembers level members ++ rest) := by
  cases members with
  | nil =>
      rw [followingMembers, List.append_assoc, List.append_assoc]
      exact (gap_newLine level).follows_append (follows_cons (by decide))
  | cons member others =>
      rw [followingMembers_cons]
      exact follows_cons (by decide)

theorem length_lt_followingMembers (level : Nat) (members : List (String × Json)) :
    members.length < (followingMembers level members).length := by
  induction members with
  | nil => exact Nat.succ_pos _
  | cons member others inductionHypothesis =>
      rw [followingMembers_cons]
      simp only [List.length_cons, List.length_append]
      omega

namespace Layout

variable {Draft : Type} {layout : Layout Draft} {depth : Nat}

/-- Members that lead from a draft to another one, each read into a field that was empty. -/
inductive Fills (layout : Layout Draft) (depth : Nat) :
    Draft → List (String × Json) → Draft → Prop
  | nil (draft : Draft) : Fills layout depth draft [] draft
  | cons {name : String} {value : Json} {slot : Slot Draft} {draft filled final : Draft}
      {members : List (String × Json)}
      (known : layout.slots.find? (fun slot => slot.name == name) = some slot)
      (empty : slot.isFilled draft = false) (reads : ReadsBack (slot.fill depth draft) value filled)
      (others : Fills layout depth filled members final) :
      Fills layout depth draft ((name, value) :: members) final

theorem Fills.append {draft filled final : Draft} {members others : List (String × Json)}
    (first : layout.Fills depth draft members filled)
    (next : layout.Fills depth filled others final) :
    layout.Fills depth draft (members ++ others) final := by
  induction first with
  | nil => exact next
  | cons known empty reads _ inductionHypothesis =>
      exact .cons known empty reads (inductionHypothesis next)

theorem takesMember_memberText {slot : Slot Draft} {name : String} {value : Json}
    {draft filled : Draft} (level : Nat)
    (known : layout.slots.find? (fun slot => slot.name == name) = some slot)
    (empty : slot.isFilled draft = false)
    (reads : ReadsBack (slot.fill depth draft) value filled) :
    layout.TakesMember depth draft (memberText level name value) filled := by
  have spaced : memberText level name value = name.toList.flatMap escapeCharacter ++
      '"' :: ([] ++ ':' :: ([' '] ++ value.indentedCharacters level)) := rfl
  rw [spaced]
  exact takesMember_of_slot (spelled_flatMap_escapeCharacter _) known empty gap_nil (reads level)
    (gap_singleton rfl)

theorem Fills.members {draft final : Draft} {members : List (String × Json)}
    (fills : layout.Fills depth draft members final) (level : Nat) :
    layout.Members depth false draft (followingMembers level members) final := by
  induction fills with
  | nil => exact .done (gap_newLine level)
  | cons known empty reads _ inductionHypothesis =>
      rw [followingMembers_cons]
      exact .next gap_nil (gap_newLine _) (takesMember_memberText _ known empty reads)
        inductionHypothesis

/-- A record is read back from its members, which lead to a draft with all mandatory fields. -/
theorem Fills.readsBack {draft : Draft} {members : List (String × Json)} (deep : 1 < depth)
    (fills : layout.Fills (depth - 1) layout.blank members draft) (some : members ≠ [])
    (complete : layout.Complete draft) : ReadsBack (layout.read depth) (.object members) draft := by
  intro level
  cases fills with
  | nil => exact absurd rfl some
  | cons known empty reads others =>
      rw [indentedCharacters_object_cons]
      exact Members.takes_read deep (.first (gap_newLine _)
        (takesMember_memberText _ known empty reads) (others.members level)) complete

end Layout

/-! ## Values of any type -/

theorem readsBack_readValue_string (depth : Nat) (text : String) :
    ReadsBack (readValue (depth + 1)) (.string text) (.string text) := by
  intro level gap rest blank follows
  have body := (spelled_flatMap_escapeCharacter text.toList).stringBody rest
  rw [indentedCharacters, quote_append, readValue, bind_of_taken (peekToken_gap blank rfl)]
  change (advance >>= fun _ => stringBody >>= fun text => pure (Json.string text)) _ = _
  rw [bind_of_taken (advance_cons ..), bind_of_taken body]
  rfl

section

variable {steps level : Nat} {first : Bool} {name : String} {members others : List (String × Json)}
  {text rest last : List Char} {reader : Reader Json}

/-- A member of an object is read, and reading goes on with the other members. -/
theorem readMembers_succ (next : nextMember first text =
      .ok (true, '"' :: (memberText level name json ++ rest)))
    (reads : ReadsBack reader json json) (follows : Follows rest)
    (later : readMembers reader steps false rest = .ok (others, last)) :
    readMembers reader (steps + 1) first text = .ok ((name, json) :: others, last) := by
  have colon : takeColon (':' :: ' ' :: (json.indentedCharacters level ++ rest)) =
      .ok ((), ' ' :: (json.indentedCharacters level ++ rest)) := takeColon_gap gap_nil
  have value : reader (' ' :: (json.indentedCharacters level ++ rest)) = .ok (json, rest) :=
    reads level [' '] rest (gap_singleton rfl) follows
  rw [readMembers, bind_of_taken next, if_pos rfl, bind_of_taken (takeName_memberText ..),
    bind_of_taken colon, bind_of_taken value, bind_of_taken later]
  rfl

theorem readMembers_followingMembers
    (reads : ∀ member ∈ members, ReadsBack reader member.2 member.2) (level : Nat)
    (rest : List Char) : ∀ steps, members.length < steps →
      readMembers reader steps false (followingMembers level members ++ rest) =
        .ok (members, '\x7d' :: rest) := by
  induction members with
  | nil =>
      intro steps enough
      obtain ⟨fewer, rfl⟩ := Nat.exists_eq_add_one_of_ne_zero (Nat.ne_zero_of_lt enough)
      have last : nextMember false (followingMembers level [] ++ rest) =
          .ok (false, '\x7d' :: rest) := by
        rw [followingMembers, List.append_assoc, List.append_assoc]
        exact nextMember_end (gap_newLine level) false
      rw [readMembers, bind_of_taken last]
      rfl
  | cons member others inductionHypothesis =>
      intro steps enough
      obtain ⟨fewer, rfl⟩ := Nat.exists_eq_add_one_of_ne_zero (Nat.ne_zero_of_lt enough)
      have later := inductionHypothesis
        (fun other held => reads other (List.mem_cons_of_mem _ held)) fewer
        (Nat.lt_of_succ_lt_succ enough)
      have next : nextMember false (followingMembers level (member :: others) ++ rest) =
          .ok (true, '"' :: (memberText (level + 1) member.1 member.2 ++
            (followingMembers level others ++ rest))) := by
        rw [followingMembers_cons]
        simp only [List.cons_append, List.append_assoc]
        exact nextMember_comma gap_nil (gap_newLine (level + 1))
      exact readMembers_succ next (reads member List.mem_cons_self)
        (follows_followingMembers level others rest) later

/-- An object is read back if the values of its members are. -/
theorem readsBack_readValue_object {depth : Nat} (some : members ≠ [])
    (reads : ∀ member ∈ members, ReadsBack (readValue (depth + 1)) member.2 member.2) :
    ReadsBack (readValue (depth + 2)) (.object members) (.object members) := by
  intro level gap rest blank follows
  cases members with
  | nil => exact absurd rfl some
  | cons member others =>
      rw [indentedCharacters_object_cons, List.cons_append, List.append_assoc, List.cons_append,
        List.append_assoc]
      let text := newLine (level + 1) ++ '"' :: (memberText (level + 1) member.1 member.2 ++
        (followingMembers level others ++ rest))
      have enough : others.length < text.length := by
        have short := length_lt_followingMembers level others
        simp only [text, List.length_append, List.length_cons]
        omega
      have later := readMembers_followingMembers
        (fun other held => reads other (List.mem_cons_of_mem _ held)) level rest _ enough
      have all : readMembers (readValue (depth + 1)) (text.length + 1) true text =
          .ok (member :: others, '\x7d' :: rest) :=
        readMembers_succ (nextMember_first (gap_newLine (level + 1)))
          (reads member List.mem_cons_self) (follows_followingMembers level others rest) later
      have got : (get : Reader (List Char)) text = .ok (text, text) := rfl
      have last : endObject ('\x7d' :: rest) = .ok ((), rest) := endObject_gap gap_nil
      rw [readValue, bind_of_taken (peekToken_gap blank rfl)]
      change (advance >>= fun _ => get >>= fun text =>
        readMembers (readValue (depth + 1)) (text.length + 1) true >>= fun members =>
          endObject >>= fun _ => pure (Json.object members)) _ = _
      rw [bind_of_taken (advance_cons ..), bind_of_taken got, bind_of_taken all, bind_of_taken last]
      rfl

end

/-! ## Optional values and whole texts -/

/-- A value whose text does not start like a null is read back as a value that is there. -/
theorem ReadsBack.readOptional (reads : ReadsBack reader json value)
    (apart : ∀ level, ∃ first others, json.indentedCharacters level = first :: others ∧
      isGap first = false ∧ first ≠ 'n') : ReadsBack (readOptional reader) json (some value) := by
  intro level
  obtain ⟨first, others, text, solid, other⟩ := apart level
  exact (reads level).readOptional text solid other

/-- The text of a whole file is read as the value that it was written for. -/
theorem ReadsBack.readWhole (reads : ReadsBack reader json value) :
    readWhole reader (json.indented ++ "\n").toList = .ok value := by
  have text : (json.indented ++ "\n").toList = json.indentedCharacters 0 ++ ['\n'] := by
    rw [indented, String.toList_append, String.toList_ofList]
    rfl
  rw [text]
  exact (reads 0).readWhole gap_nil (gap_singleton rfl)

end BankLedger.Json
