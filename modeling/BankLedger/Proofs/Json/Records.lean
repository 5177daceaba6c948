import BankLedger.Json.Record
import BankLedger.Proofs.Json.Scanning

/-!
# Records that were written

The members of an object are read into a draft one after the other, so what an object is read as can
be found along its text: a member leads from one draft to the next, and the draft at the end has to
hold the mandatory fields.
-/

namespace BankLedger.Json

variable {Draft : Type} {layout : Layout Draft} {depth : Nat}

/-! ## Punctuation -/

section

variable {gap other rest : List Char}

theorem takeColon_gap (blank : Gap gap) : takeColon (gap ++ ':' :: rest) = .ok ((), rest) := by
  rw [takeColon, bind_of_taken (peekToken_gap blank rfl)]
  rfl

theorem nextMember_first (blank : Gap gap) :
    nextMember true (gap ++ '"' :: rest) = .ok (true, '"' :: rest) := by
  rw [nextMember, bind_of_taken (peekToken_gap blank rfl)]
  rfl

theorem nextMember_comma (before : Gap gap) (after : Gap other) :
    nextMember false (gap ++ ',' :: (other ++ '"' :: rest)) = .ok (true, '"' :: rest) := by
  rw [nextMember, bind_of_taken (peekToken_gap before rfl)]
  change (advance >>= fun _ => peekToken >>= _) _ = _
  rw [bind_of_taken (advance_cons ..), bind_of_taken (peekToken_gap after rfl)]
  rfl

theorem nextMember_end (blank : Gap gap) (first : Bool) :
    nextMember first (gap ++ '\x7d' :: rest) = .ok (false, '\x7d' :: rest) := by
  rw [nextMember, bind_of_taken (peekToken_gap blank rfl)]
  rfl

theorem endObject_gap (blank : Gap gap) : endObject (gap ++ '\x7d' :: rest) = .ok ((), rest) := by
  rw [endObject, bind_of_taken (peekToken_gap blank rfl)]
  rfl

end

namespace Layout

/-- A text, after a quote, is read as a member into a draft. -/
def TakesMember (layout : Layout Draft) (depth : Nat) (draft : Draft) (text : List Char)
    (filled : Draft) : Prop :=
  ∀ rest, Follows rest → layout.readMember depth draft ('"' :: (text ++ rest)) = .ok (filled, rest)

/-- The members of an object up to its end, with the drafts that reading goes through.  The flag
tells whether no member has been read yet. -/
inductive Members (layout : Layout Draft) (depth : Nat) : Bool → Draft → List Char → Draft → Prop
  | done {first : Bool} {draft : Draft} {gap : List Char} (blank : Gap gap) :
      Members layout depth first draft (gap ++ ['\x7d']) draft
  | first {draft filled final : Draft} {gap text rest : List Char} (blank : Gap gap)
      (member : layout.TakesMember depth draft text filled)
      (others : Members layout depth false filled rest final) :
      Members layout depth true draft (gap ++ '"' :: (text ++ rest)) final
  | next {draft filled final : Draft} {gap other text rest : List Char} (before : Gap gap)
      (after : Gap other) (member : layout.TakesMember depth draft text filled)
      (others : Members layout depth false filled rest final) :
      Members layout depth false draft (gap ++ ',' :: (other ++ '"' :: (text ++ rest))) final

theorem Members.follows {draft final : Draft} {text : List Char}
    (members : Members layout depth false draft text final) (rest : List Char) :
    Follows (text ++ rest) := by
  cases members with
  | done blank =>
      rw [List.append_assoc]
      exact blank.follows_append (follows_cons (by decide))
  | next before =>
      rw [List.append_assoc]
      exact before.follows_append (follows_cons (by decide))

/-- A member is read, and reading goes on with the other members. -/
theorem readMembers_succ {steps : Nat} {first : Bool} {draft filled final : Draft}
    {text member others rest : List Char}
    (next : nextMember first text = .ok (true, '"' :: (member ++ others)))
    (reads : layout.TakesMember depth draft member filled) (follows : Follows others)
    (later : layout.readMembers depth steps false filled others = .ok (final, rest)) :
    layout.readMembers depth (steps + 1) first draft text = .ok (final, rest) := by
  rw [readMembers, bind_of_taken next, if_pos rfl, bind_of_taken (reads others follows)]
  exact later

theorem Members.readMembers {first : Bool} {draft final : Draft} {text : List Char}
    (members : Members layout depth first draft text final) (rest : List Char) :
    ∀ steps, text.length ≤ steps →
      layout.readMembers depth steps first draft (text ++ rest) = .ok (final, '\x7d' :: rest) := by
  induction members with
  | done blank =>
      intro steps enough
      rw [List.length_append, List.length_singleton] at enough
      obtain ⟨fewer, rfl⟩ : ∃ fewer, steps = fewer + 1 := ⟨steps - 1, by omega⟩
      rw [List.append_assoc, Layout.readMembers, List.singleton_append,
        bind_of_taken (nextMember_end blank _), if_neg (by decide)]
      rfl
  | first blank member others inductionHypothesis =>
      intro steps enough
      simp only [List.length_append, List.length_cons] at enough
      obtain ⟨fewer, rfl⟩ : ∃ fewer, steps = fewer + 1 := ⟨steps - 1, by omega⟩
      rw [List.append_assoc, List.cons_append, List.append_assoc]
      exact readMembers_succ (nextMember_first blank) member (others.follows rest)
        (inductionHypothesis fewer (by omega))
  | next before after member others inductionHypothesis =>
      intro steps enough
      simp only [List.length_append, List.length_cons] at enough
      obtain ⟨fewer, rfl⟩ : ∃ fewer, steps = fewer + 1 := ⟨steps - 1, by omega⟩
      rw [List.append_assoc, List.cons_append, List.append_assoc, List.cons_append,
        List.append_assoc]
      exact readMembers_succ (nextMember_comma before after) member (others.follows rest)
        (inductionHypothesis fewer (by omega))

/-- A draft with all the mandatory fields of a record. -/
def Complete (layout : Layout Draft) (draft : Draft) : Prop :=
  ∀ slot ∈ layout.slots, slot.mandatory = true → slot.isFilled draft = true

theorem requireFields_of_forall {draft : Draft} {slots : List (Slot Draft)}
    (filled : ∀ slot ∈ slots, slot.mandatory = true → slot.isFilled draft = true)
    (text : List Char) : requireFields draft slots text = .ok ((), text) := by
  induction slots with
  | nil => rfl
  | cons slot others inductionHypothesis =>
      have there : ¬((slot.mandatory && !slot.isFilled draft) = true) := by
        intro absent
        rw [Bool.and_eq_true, Bool.not_eq_true'] at absent
        rw [filled slot List.mem_cons_self absent.1] at absent
        exact absurd absent.2 (by decide)
      rw [requireFields, if_neg there]
      exact inductionHypothesis fun other member => filled other (List.mem_cons_of_mem _ member)

theorem closing_of_taken {α : Type} {ending : Reader Unit} {body : Reader α} {value : α}
    {text after last : List Char} (taken : body text = .ok (value, after))
    (closed : ending after = .ok ((), last)) : closing ending body text = .ok (value, last) := by
  rw [closing, taken]
  dsimp only
  rw [closed]

/-- An object is read as the draft that its members lead to. -/
theorem Members.takes_read {draft : Draft} {text : List Char} (deep : 1 < depth)
    (members : Members layout (depth - 1) true layout.blank text draft)
    (complete : layout.Complete draft) : Takes (layout.read depth) ('\x7b' :: text) draft := by
  intro gap rest blank follows
  have enough : text.length ≤ (text ++ rest).length + 1 := by
    rw [List.length_append]
    omega
  have body : layout.readObject (depth - 1) (text ++ rest) = .ok (draft, '\x7d' :: rest) := by
    have got : (get : Reader (List Char)) (text ++ rest) = .ok (text ++ rest, text ++ rest) := rfl
    rw [readObject, bind_of_taken got, bind_of_taken (members.readMembers rest _ enough),
      bind_of_taken (requireFields_of_forall complete _)]
    rfl
  rw [List.cons_append, read, bind_of_taken (peekToken_gap blank rfl)]
  change (if depth ≤ 1 then stopAtNext .nestedTooDeep
    else advance >>= fun _ => closing endObject (layout.readObject (depth - 1))) _ = _
  rw [if_neg (Nat.not_le.mpr deep), bind_of_taken (advance_cons ..)]
  exact closing_of_taken body (endObject_gap gap_nil)

/-! ## Fields -/

/-- A member that names a field is read into it: the name may be spelled in any way, and blanks may
stand around the colon. -/
theorem takesMember_of_slot {slot : Slot Draft} {name : String} {draft filled : Draft}
    {spelling gap value : List Char} (spelled : Spelled spelling name.toList)
    (known : layout.slots.find? (fun slot => slot.name == name) = some slot)
    (empty : slot.isFilled draft = false) (before : Gap gap)
    (takes : Takes (slot.fill depth draft) value filled) {other : List Char} (after : Gap other) :
    layout.TakesMember depth draft (spelling ++ '"' :: (gap ++ ':' :: (other ++ value)))
      filled := by
  intro rest follows
  simp only [List.append_assoc, List.cons_append]
  rw [readMember, bind_of_taken (spelled.takeName _), known]
  dsimp only
  rw [if_neg (by simp [empty]), bind_of_taken (takeColon_gap before)]
  exact takes other rest after follows

end Layout

end BankLedger.Json
