import BankLedger.Postgres.ServerMessage

/-!
# Reading what was written

The parts of a body are written one after the other, and a reader that takes a part from the front
does not look at what follows it.  So readers of parts can be put together like the parts that they
read.
-/

namespace BankLedger

namespace Octets

theorem toNat_ofNat16 {value : Nat} (small : value < 0x10000) : (ofNat16 value).toNat = value := by
  simp only [ofNat16, toNat, List.foldl, UInt8.toNat_ofNat']
  omega

theorem toNat_ofNat32 {value : Nat} (small : value < 0x100000000) :
    (ofNat32 value).toNat = value := by
  simp only [ofNat32, toNat, List.foldl, UInt8.toNat_ofNat']
  omega

theorem readText_ofText (text : String) : (ofText text).readText = .ok text := by
  rw [readText, toText?_ofText]

end Octets

namespace Postgres

namespace BodyReader

variable {Part Whole : Type}

/-- A reader reads a part from octets at the front, whatever follows them. -/
def Reads (reader : BodyReader Part) (octets : Octets) (part : Part) : Prop :=
  ∀ rest, reader (octets ++ rest) = .ok (part, rest)

/-- A reader reads a part from octets and leaves nothing. -/
def Exhausts (reader : BodyReader Part) (octets : Octets) (part : Part) : Prop :=
  reader octets = .ok (part, [])

section

variable {reader : BodyReader Part} {octets more : Octets} {part : Part} {whole : Whole}

theorem Reads.exhausts (reads : Reads reader octets part) : Exhausts reader octets part := by
  have read := reads []
  rwa [List.append_nil] at read

theorem reads_pure (part : Part) : Reads (pure part) [] part :=
  fun _ => rfl

theorem exhausts_pure (part : Part) : Exhausts (pure part) [] part :=
  rfl

theorem Reads.bind {next : Part → BodyReader Whole} (first : Reads reader octets part)
    (others : Reads (next part) more whole) : Reads (reader >>= next) (octets ++ more) whole := by
  intro rest
  rw [List.append_assoc]
  change (reader (octets ++ (more ++ rest)) >>= fun read => next read.1 read.2) = _
  rw [first]
  exact others rest

theorem Reads.bind_exhausts {next : Part → BodyReader Whole} (first : Reads reader octets part)
    (others : Exhausts (next part) more whole) :
    Exhausts (reader >>= next) (octets ++ more) whole := by
  change (reader (octets ++ more) >>= fun read => next read.1 read.2) = _
  rw [first]
  exact others

/-- After a reader that leaves nothing, another one can only read nothing. -/
theorem Exhausts.bind {next : Part → BodyReader Whole} (first : Exhausts reader octets part)
    (others : Exhausts (next part) [] whole) : Exhausts (reader >>= next) octets whole := by
  change (reader octets >>= fun read => next read.1 read.2) = _
  rw [first]
  exact others

theorem Exhausts.run'_eq (exhausts : Exhausts reader octets part) :
    reader.run' octets = .ok part := by
  change Prod.fst <$> reader octets = _
  rw [exhausts]
  rfl

end

/-! ## Parts -/

theorem reads_take (octets : Octets) (shortage : Malformed) :
    Reads (take octets.length shortage) octets octets := by
  intro rest
  rw [take, if_neg (by simp), List.take_left, List.drop_left]

theorem reads_natural_one (octet : UInt8) : Reads (natural 1) [octet] octet.toNat := by
  have number : Octets.toNat [octet] = octet.toNat := Nat.zero_add _
  rw [← number]
  exact .bind (reads_take [octet] .tooShort) (reads_pure _)

theorem reads_natural_two {value : Nat} (small : value < 0x10000) :
    Reads (natural 2) (Octets.ofNat16 value) value := by
  have reads : Reads (natural 2) (Octets.ofNat16 value) (Octets.ofNat16 value).toNat :=
    .bind (reads_take (Octets.ofNat16 value) .tooShort) (reads_pure _)
  rwa [Octets.toNat_ofNat16 small] at reads

theorem reads_natural_four {value : Nat} (small : value < 0x100000000) :
    Reads (natural 4) (Octets.ofNat32 value) value := by
  have reads : Reads (natural 4) (Octets.ofNat32 value) (Octets.ofNat32 value).toNat :=
    .bind (reads_take (Octets.ofNat32 value) .tooShort) (reads_pure _)
  rwa [Octets.toNat_ofNat32 small] at reads

/-- A number of the upper half is read as a negative one. -/
theorem reads_integer {value : Nat} (small : value < 0x100000000) :
    Reads integer (Octets.ofNat32 value)
      (if value < 0x80000000 then value else (value : Int) - 0x100000000) := by
  rw [← List.append_nil (Octets.ofNat32 value)]
  exact .bind (reads_natural_four small) (reads_pure _)

theorem splitAtZero_append {text : Octets} (zeroFree : 0 ∉ text) (rest : Octets) :
    splitAtZero (text ++ 0 :: rest) = some (text, rest) := by
  induction text with
  | nil => rfl
  | cons octet others inductionHypothesis =>
      rw [List.mem_cons, not_or] at zeroFree
      rw [List.cons_append, splitAtZero, if_neg (Ne.symm zeroFree.1),
        inductionHypothesis zeroFree.2]
      rfl

theorem reads_terminated {text : Octets} (zeroFree : 0 ∉ text) :
    Reads terminated (text ++ [0]) text := by
  intro rest
  rw [terminated, List.append_assoc, List.singleton_append, splitAtZero_append zeroFree]

theorem exhausts_remaining (octets : Octets) : Exhausts remaining octets octets :=
  rfl

/-- Parts that can be read one by one can be read in a row. -/
theorem exhausts_counted {reader : BodyReader Part} (place : Surplus) {Written : Type}
    (octets : Written → Octets) (part : Written → Part) {written : List Written}
    (each : ∀ one ∈ written, Reads reader (octets one) (part one)) :
    Exhausts (counted reader place written.length) (written.flatMap octets)
      (written.map part) := by
  induction written with
  | nil => rfl
  | cons first others inductionHypothesis =>
      rw [List.forall_mem_cons] at each
      rw [List.flatMap_cons]
      exact each.1.bind_exhausts ((inductionHypothesis each.2).bind (exhausts_pure _))

end BodyReader

/-! ## Frames -/

namespace Frame

/-- A frame is read from the front of a stream if its length can be written. -/
theorem read_octets {frame : Frame} (fits : frame.body.length + 4 < 0x100000000) (rest : Octets) :
    read (frame.octets ++ rest) = .whole frame rest := by
  have length : Octets.toNat (Octets.ofNat32 (frame.body.length + 4)) = frame.body.length + 4 :=
    Octets.toNat_ofNat32 fits
  change split frame.tag (Octets.toNat (Octets.ofNat32 (frame.body.length + 4)))
    (frame.body ++ rest) = _
  rw [length, split]
  simp only [Nat.add_sub_cancel, List.take_left, List.drop_left]
  rw [if_neg (Nat.not_lt_of_le (Nat.le_add_left ..)), if_neg (Nat.lt_irrefl _)]

end Frame

theorem ServerMessage.ofFrame_eq {tag : UInt8} {body : Octets} {message : ServerMessage}
    (exhausts : BodyReader.Exhausts (ofBody tag) body message) :
    ofFrame ⟨tag, body⟩ = .ok message := by
  have nothing : BodyReader.Exhausts (BodyReader.finished .body) [] () := rfl
  exact (exhausts.bind (nothing.bind (BodyReader.exhausts_pure message))).run'_eq

end Postgres

end BankLedger
