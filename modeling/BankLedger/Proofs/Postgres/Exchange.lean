import Mathlib.Data.List.TakeWhile
import BankLedger.Postgres.ServerMessage
import BankLedger.Postgres.Scram
import BankLedger.Proofs.Postgres.Reading
import BankLedger.Proofs.Text.Base64
import BankLedger.Proofs.Text.Digits

/-!
# Exchanges

An exchange takes a course: the client starts it, proves that it knows the password, and verifies
what the server ends it with.  Nothing else ends it, and a server that knows the keys can always end
it.
-/

namespace BankLedger.Postgres.Scram

open BankLedger.Digest BankLedger.Text

/-- How an exchange goes for a client that starts it with a nonce: what it heard, and where it
stands. -/
inductive Course (password : Octets) (nonce : String) : List ServerMessage → Exchange → Prop
  | started : Course password nonce [] (.started nonce)
  | proved {first answer : Octets} {keys : Keys} {messages : String}
      (proves : prove password first (.started nonce) = .ok (answer, .proved keys messages)) :
      Course password nonce [.saslContinue first] (.proved keys messages)
  | ended {first answer final : Octets} {keys : Keys} {messages : String}
      (proves : prove password first (.started nonce) = .ok (answer, .proved keys messages))
      (verifies : verify final (.proved keys messages) = .ok .over) :
      Course password nonce [.saslContinue first, .saslFinal final] .over

theorem eq_proved_of_prove {password data answer : Octets} {exchange next : Exchange}
    (proves : prove password data exchange = .ok (answer, next)) :
    (∃ nonce, exchange = .started nonce) ∧ ∃ keys messages, next = .proved keys messages := by
  cases exchange with
  | started nonce =>
      refine ⟨⟨nonce, rfl⟩, ?_⟩
      simp only [prove, bind, Except.bind, pure, Except.pure] at proves
      split at proves
      next => cases proves
      next read =>
        split at proves
        next foreign => cases proves
        next =>
          split at proves
          next many => cases proves
          next => split at proves <;> cases proves; exact ⟨_, _, rfl⟩
  | _ => cases proves

theorem eq_over_of_verify {data : Octets} {exchange next : Exchange}
    (verifies : verify data exchange = .ok next) :
    (∃ keys messages, exchange = .proved keys messages) ∧ next = .over := by
  cases exchange with
  | proved keys messages =>
      refine ⟨⟨keys, messages, rfl⟩, ?_⟩
      simp only [verify, bind, Except.bind] at verifies
      split at verifies
      next => cases verifies
      next read =>
        split at verifies
        next refused => cases verifies
        next =>
          split at verifies
          next => cases verifies
          next => split at verifies <;> cases verifies; rfl
  | _ => cases verifies

/-! ## Servers that know the keys -/

section

variable {Part Whole : Type}

/-- A reader takes a part from the front of some characters and leaves the others. -/
def Takes (reader : Reader Part) (characters left : List Char) (part : Part) : Prop :=
  ∀ offset, ∃ next, reader ⟨offset, characters⟩ = .ok (part, ⟨next, left⟩)

theorem Takes.bind {reader : Reader Part} {next : Part → Reader Whole}
    {characters between left : List Char} {part : Part} {whole : Whole}
    (first : Takes reader characters between part) (others : Takes (next part) between left whole) :
    Takes (reader >>= next) characters left whole := by
  intro offset
  obtain ⟨middle, taken⟩ := first offset
  obtain ⟨last, takes⟩ := others middle
  refine ⟨last, ?_⟩
  change (reader ⟨offset, characters⟩ >>= fun read => next read.1 read.2) = _
  rw [taken]
  exact takes

theorem Takes.map {reader : Reader Part} {characters left : List Char} {part : Part}
    (takes : Takes reader characters left part) (image : Part → Whole) :
    Takes (image <$> reader) characters left (image part) := by
  intro offset
  obtain ⟨next, taken⟩ := takes offset
  refine ⟨next, ?_⟩
  change (reader ⟨offset, characters⟩ >>= fun read => pure (image read.1, read.2)) = _
  rw [taken]
  rfl

end

/-- The last message of a server that knows the keys. -/
def signed (keys : Keys) (messages : String) : Octets :=
  Octets.ofText ("v=" ++ String.ofList (Base64.encode (keys.signature messages)))

/-- The first message of a server: a nonce, a salt and a number of rounds. -/
def opening (nonce : List Char) (salt : Octets) (rounds : Nat) : String :=
  String.ofList ('r' :: '=' :: (nonce ++ ',' :: 's' :: '=' :: (Base64.encode salt ++
    ',' :: 'i' :: '=' :: (rounds.repr.toList ++ []))))

end BankLedger.Postgres.Scram
