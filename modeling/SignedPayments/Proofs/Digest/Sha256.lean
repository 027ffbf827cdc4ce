import SignedPayments.Digest.Sha256
import SignedPayments.Proofs.Digest.Standard

/-!
# SignedPayments.Proofs.Digest.Sha256

The digest of a message is the one that the standard describes (`digests_iff`), and taking a
message piece by piece gives the same digest (`Stream.finish_ofMessage`).

The schedule is kept with its latest word first, where the standard numbers the words, and the
constants are written out, where the standard gives them by roots of primes. With these two
differences settled (`schedule_eq`, `roundConstants_eq`), a block makes the same of both values
(`words_compress`).
-/

namespace SignedPayments

namespace Sha256

/-! ### Constants -/

/-- The first 64 primes. -/
def primes : List Nat :=
  [2, 3, 5, 7, 11, 13, 17, 19, 23, 29, 31, 37, 41, 43, 47, 53, 59, 61, 67, 71, 73, 79, 83, 89, 97,
   101, 103, 107, 109, 113, 127, 131, 137, 139, 149, 151, 157, 163, 167, 173, 179, 181, 191, 193,
   197, 199, 211, 223, 227, 229, 233, 239, 241, 251, 257, 263, 269, 271, 277, 281, 283, 293, 307,
   311]

/-- Whether a number has no small divisor. -/
def Indivisible (p : Nat) : Prop := 2 ≤ p ∧ ∀ m < 18, 2 ≤ m → m < p → ¬m ∣ p

instance : DecidablePred Indivisible := fun _ => inferInstanceAs (Decidable (_ ∧ _))

/-- Below the square of 18, a small divisor is enough to tell. -/
theorem prime_iff_indivisible {p : Nat} (hp : p < 324) : p.Prime ↔ Indivisible p := by
  rw [Nat.prime_def_le_sqrt]
  refine and_congr_right fun htwo => ⟨fun h m _ hm hlt hdvd => ?_, fun h m hm hle => ?_⟩
  · -- A divisor above the square root comes with one below it.
    obtain ⟨d, rfl⟩ := hdvd
    have hd : 2 ≤ d := by
      by_contra hsmall
      have hcases : d = 0 ∨ d = 1 := by omega
      rcases hcases with hd | hd
      · simp [hd] at htwo
      · simp [hd] at hlt
    rcases Nat.le_total m d with hmd | hmd
    · exact h m hm (Nat.le_sqrt.mpr (Nat.mul_le_mul_left m hmd)) (Nat.dvd_mul_right m d)
    · exact h d hd (Nat.le_sqrt.mpr (Nat.mul_le_mul_right d hmd)) (Nat.dvd_mul_left d m)
  · have hsquare : m * m ≤ p := Nat.le_sqrt.mp hle
    have hsmall : m < 18 := by
      by_contra hbig
      have hsquare' : 18 * 18 ≤ m * m := Nat.mul_le_mul (by omega) (by omega)
      omega
    have hlt : m < p := by
      have hdouble : 2 * m ≤ m * m := Nat.mul_le_mul_right m hm
      omega
    exact h m hsmall hm hlt

/-- From one number of the list to the next, one prime is passed. -/
theorem count_primes {t : Nat} (ht : t < 64) : Nat.count Indivisible (primes.getD t 0) = t := by
  have hstep : ∀ i < 63, primes.getD i 0 ≤ primes.getD (i + 1) 0 ∧
      Nat.count (fun k => Indivisible (primes.getD i 0 + k))
        (primes.getD (i + 1) 0 - primes.getD i 0) = 1 := by
    decide +kernel
  induction t with
  | zero => decide
  | succ t ih =>
      obtain ⟨hle, hone⟩ := hstep t (by omega)
      rw [← Nat.add_sub_of_le hle, Nat.count_add, hone, ih (by omega)]

theorem nth_prime {t : Nat} (ht : t < 64) : Nat.nth Nat.Prime t = primes.getD t 0 := by
  have hall : ∀ i < 64, primes.getD i 0 < 324 ∧ Indivisible (primes.getD i 0) := by decide +kernel
  obtain ⟨hsmall, hprime⟩ := hall t ht
  have hiff : ∀ k < primes.getD t 0, k.Prime ↔ Indivisible k := fun k hk =>
    prime_iff_indivisible (by omega)
  have hcount : Nat.count Nat.Prime (primes.getD t 0) = Nat.count Indivisible (primes.getD t 0) :=
    Nat.le_antisymm (Nat.count_mono_left fun k hk => (hiff k hk).mp)
      (Nat.count_mono_left fun k hk => (hiff k hk).mpr)
  rw [← Nat.nth_count ((prime_iff_indivisible hsmall).mpr hprime), hcount, count_primes ht]

/-- A number is a root if it is not too great and the next one is. -/
theorem root_eq {k m n : Nat} (hk : k ≠ 0) (hle : n ^ k ≤ m) (hlt : m < (n + 1) ^ k) :
    Standard.root k m = n := by
  refine Nat.findGreatest_eq_iff.mpr ⟨?_, fun _ => hle, ?_⟩
  · exact (Nat.le_self_pow hk n).trans hle
  · intro j hj _ hpow
    have hnext : (n + 1) ^ k ≤ j ^ k := Nat.pow_le_pow_left hj k
    omega

/-- Whether a word has the first bits of the fractional part of the `k`-th root of `p`, which is
less than 32. -/
def IsFraction (k p : Nat) (w : UInt32) : Prop :=
  ∃ whole < 32, (whole * 2 ^ 32 + w.toNat) ^ k ≤ p * 2 ^ (32 * k) ∧
    p * 2 ^ (32 * k) < (whole * 2 ^ 32 + w.toNat + 1) ^ k

instance (k p : Nat) (w : UInt32) : Decidable (IsFraction k p w) :=
  inferInstanceAs (Decidable (∃ whole < 32, _ ∧ _))

theorem rootFraction_eq {k p : Nat} {w : UInt32} (hk : k ≠ 0) (h : IsFraction k p w) :
    Standard.rootFraction k p = w.toBitVec := by
  obtain ⟨whole, -, hle, hlt⟩ := h
  rw [Standard.rootFraction, root_eq hk hle hlt]
  apply BitVec.eq_of_toNat_eq
  rw [BitVec.toNat_ofNat, Nat.mul_add_mod_self_right, UInt32.toNat_toBitVec]
  exact Nat.mod_eq_of_lt w.toNat_lt

theorem toBitVec_roundConstants {t : Nat} (ht : t < 64) :
    (roundConstants.getD t 0).toBitVec = Standard.roundConstant t := by
  have hall : ∀ i < 64, IsFraction 3 (primes.getD i 0) (roundConstants.getD i 0) := by
    decide +kernel
  rw [Standard.roundConstant, nth_prime ht, rootFraction_eq (by decide) (hall t ht)]

/-- The eight words of a state. -/
def State.words (s : State) : Standard.Registers :=
  ⟨s.a.toBitVec, s.b.toBitVec, s.c.toBitVec, s.d.toBitVec, s.e.toBitVec, s.f.toBitVec,
    s.g.toBitVec, s.h.toBitVec⟩

theorem words_initial : State.initial.words = Standard.start := by
  have hall : ∀ i < 8, IsFraction 2 (primes.getD i 0) ([State.initial.a, State.initial.b,
      State.initial.c, State.initial.d, State.initial.e, State.initial.f, State.initial.g,
      State.initial.h].getD i 0) := by
    decide +kernel
  have hword : ∀ i < 8, Standard.startWord i = _ := fun i hi => by
    rw [Standard.startWord, nth_prime (by omega), rootFraction_eq (by decide) (hall i hi)]
  simp only [Standard.start, hword, Nat.reduceLT]
  rfl

/-! ### One block -/

/-- Four bytes as a word. -/
theorem toBitVec_word (p q r s : UInt8) :
    ((p.toUInt32 <<< 24) ||| (q.toUInt32 <<< 16) ||| (r.toUInt32 <<< 8) ||| s.toUInt32).toBitVec =
      p.toBitVec ++ q.toBitVec ++ r.toBitVec ++ s.toBitVec := by
  have hfits : ∀ (b : UInt8) (n : Nat), n ≤ 24 → b.toNat <<< n % 2 ^ 32 = b.toNat <<< n := by
    intro b n hn
    rw [Nat.shiftLeft_eq]
    refine Nat.mod_eq_of_lt ?_
    calc b.toNat * 2 ^ n < 2 ^ 8 * 2 ^ n := Nat.mul_lt_mul_of_pos_right b.toNat_lt n.two_pow_pos
      _ ≤ 2 ^ 8 * 2 ^ 24 := Nat.mul_le_mul_left _ (Nat.pow_le_pow_right (by decide) hn)
      _ = 2 ^ 32 := by decide
  apply BitVec.eq_of_toNat_eq
  rw [BitVec.toNat_append, BitVec.toNat_append, BitVec.toNat_append]
  simp only [UInt32.toNat_toBitVec, UInt8.toNat_toBitVec, UInt32.toNat_or, UInt32.toNat_shiftLeft,
    UInt8.toNat_toUInt32, Nat.shiftLeft_or_distrib, ← Nat.shiftLeft_add]
  rw [← hfits p 24 (by decide), ← hfits q 16 (by decide), ← hfits r 8 (by decide)]
  rfl

theorem blockWord_cons (p q r s : UInt8) (rest : Bytes) (t : Nat) :
    Standard.blockWord (p :: q :: r :: s :: rest) (t + 1) = Standard.blockWord rest t := by
  simp only [Standard.blockWord, Nat.mul_succ, List.getD_cons_succ, Nat.add_assoc, Nat.reduceAdd]

/-- The words of whole words of bytes. -/
theorem wordsOf_eq {n : Nat} {bytes : Bytes} (h : bytes.length = 4 * n) :
    wordsOf bytes = (List.range n).map fun t => UInt32.ofBitVec (Standard.blockWord bytes t) := by
  induction n generalizing bytes with
  | zero =>
      rw [List.length_eq_zero_iff.mp h]
      rfl
  | succ n ih =>
      obtain ⟨p, q, r, s, rest, rfl⟩ : ∃ p q r s rest, bytes = p :: q :: r :: s :: rest := by
        match bytes, h with
        | p :: q :: r :: s :: rest, _ => exact ⟨p, q, r, s, rest, rfl⟩
      have hrest : rest.length = 4 * n := by
        simp only [List.length_cons] at h
        omega
      rw [wordsOf, ih hrest, List.range_succ_eq_map, List.map_cons, List.map_map]
      refine List.cons_eq_cons.mpr ⟨UInt32.toBitVec_inj.mp (toBitVec_word p q r s), ?_⟩
      refine List.map_congr_left fun t _ => ?_
      rw [Function.comp_apply, blockWord_cons]

section

variable {W : Nat → UInt32}

/-- A word so many places back. -/
theorem getD_reverse_range {m i : Nat} (hi : i < m) :
    ((List.range m).map W).reverse.getD i 0 = W (m - 1 - i) := by
  rw [List.getD_eq_getElem _ _ (by simpa using hi), List.getElem_reverse, List.getElem_map,
    List.getElem_range, List.length_map, List.length_range]

/-- Words that follow each other as those of a schedule do. -/
def Recurs (W : Nat → UInt32) : Prop :=
  ∀ t, 16 ≤ t → W t = sigma1 (W (t - 2)) + W (t - 7) + sigma0 (W (t - 15)) + W (t - 16)

theorem nextWord_range (h : Recurs W) {m : Nat} (hm : 16 ≤ m) :
    nextWord ((List.range m).map W).reverse = W m := by
  rw [nextWord, getD_reverse_range (by omega), getD_reverse_range (by omega),
    getD_reverse_range (by omega), getD_reverse_range (by omega), h m hm]
  simp only [Nat.sub_sub, Nat.reduceAdd]

theorem extend_range (h : Recurs W) (n : Nat) {m : Nat} (hm : 16 ≤ m) :
    extend n ((List.range m).map W).reverse = ((List.range (m + n)).map W).reverse := by
  induction n generalizing m with
  | zero => rfl
  | succ n ih =>
      have hnext : W m :: ((List.range m).map W).reverse = ((List.range (m + 1)).map W).reverse := by
        rw [List.range_succ, List.map_append, List.reverse_append]
        rfl
      rw [extend, nextWord_range h hm, hnext, ih (by omega), Nat.add_assoc, Nat.add_comm 1 n]

end

theorem schedule_of_lt {block : Bytes} {t : Nat} (h : t < 16) :
    Standard.schedule block t = Standard.blockWord block t := by
  rw [Standard.schedule, if_pos h]

theorem recurs_schedule (block : Bytes) :
    Recurs fun t => UInt32.ofBitVec (Standard.schedule block t) := by
  intro t ht
  dsimp only
  rw [Standard.schedule, if_neg (by omega)]
  rfl

/-- The words of a schedule, by their numbers. -/
theorem schedule_eq {block : Bytes} (h : block.length = 64) :
    schedule block = (List.range 64).map fun t => UInt32.ofBitVec (Standard.schedule block t) := by
  have hwords : wordsOf block =
      (List.range 16).map fun t => UInt32.ofBitVec (Standard.schedule block t) := by
    rw [wordsOf_eq (n := 16) h]
    refine List.map_congr_left fun t ht => ?_
    rw [schedule_of_lt (List.mem_range.mp ht)]
  rw [schedule, hwords, extend_range (recurs_schedule block) 48 (by decide), List.reverse_reverse]

/-- The constants of the rounds, by their numbers. -/
theorem roundConstants_eq :
    roundConstants = (List.range 64).map fun t => UInt32.ofBitVec (Standard.roundConstant t) := by
  refine List.ext_getElem (by decide) fun t ht _ => ?_
  rw [List.getElem_map, List.getElem_range, ← toBitVec_roundConstants ht,
    List.getD_eq_getElem _ _ ht]

/-- A block makes the same of a state as of its words. -/
theorem words_compress {block : Bytes} (h : block.length = 64) (s : State) :
    (compress s block).words = Standard.compress s.words block := by
  have hrounds : ∀ s : State, ((roundConstants.zip (schedule block)).foldl round s).words =
      (List.range 64).foldl (Standard.round block) s.words := by
    intro s
    rw [roundConstants_eq, schedule_eq h, List.zip_map', List.foldl_map]
    exact (List.foldl_hom State.words fun _ _ => rfl).symm
  rw [Standard.compress, ← hrounds, compress]
  simp only [State.words, State.add, UInt32.toBitVec_add, BitVec.add_comm]

/-! ### Cutting into blocks -/

section

variable {block rest : Bytes} {parts : List Bytes}

theorem drop_append_block (h : block.length = 64) :
    ∃ b, (block ++ rest).drop 63 = b :: rest := by
  obtain ⟨b, hb⟩ : ∃ b, block.drop 63 = [b] :=
    List.length_eq_one_iff.mp (by rw [List.length_drop, h])
  refine ⟨b, ?_⟩
  rw [List.drop_append_of_le_length (by omega), hb, List.singleton_append]

theorem absorb_of_lt (s : State) (h : rest.length < 64) : absorb s rest = (s, rest) := by
  have hdrop : rest.drop 63 = [] := List.drop_eq_nil_of_le (by omega)
  rw [absorb]
  split
  · rfl
  · next hcons =>
    rw [hdrop] at hcons
    cases hcons

theorem absorb_append_block (s : State) (h : block.length = 64) :
    absorb s (block ++ rest) = absorb (compress s block) rest := by
  obtain ⟨b, hdrop⟩ : ∃ b, (block ++ rest).drop 63 = b :: rest := drop_append_block h
  rw [absorb]
  split
  · next hnil =>
    rw [hdrop] at hnil
    cases hnil
  · next hcons =>
    rw [hdrop] at hcons
    cases hcons
    rw [List.take_append_of_le_length (by omega), List.take_of_length_le (by omega)]

theorem blocks_of_lt (h : rest.length < 64) : blocks rest = [] := by
  have hdrop : rest.drop 63 = [] := List.drop_eq_nil_of_le (by omega)
  rw [blocks]
  split
  · rfl
  · next hcons =>
    rw [hdrop] at hcons
    cases hcons

theorem blocks_append_block (h : block.length = 64) :
    blocks (block ++ rest) = block :: blocks rest := by
  obtain ⟨b, hdrop⟩ : ∃ b, (block ++ rest).drop 63 = b :: rest := drop_append_block h
  rw [blocks]
  split
  · next hnil =>
    rw [hdrop] at hnil
    cases hnil
  · next hcons =>
    rw [hdrop] at hcons
    cases hcons
    rw [List.take_append_of_le_length (by omega), List.take_of_length_le (by omega)]

/-- Bytes are whole blocks and a rest that fills none. -/
theorem exists_parts (bytes : Bytes) :
    ∃ parts rest, bytes = List.flatten parts ++ rest ∧
      (∀ block ∈ parts, block.length = 64) ∧ rest.length < 64 := by
  induction hn : bytes.length using Nat.strongRecOn generalizing bytes with
  | ind n ih =>
      by_cases hshort : bytes.length < 64
      · exact ⟨[], bytes, rfl, by simp, hshort⟩
      · have hdrop : (bytes.drop 64).length < n := by
          rw [List.length_drop]
          omega
        obtain ⟨parts, rest, heq, hparts, hrest⟩ := ih _ hdrop (bytes.drop 64) rfl
        refine ⟨bytes.take 64 :: parts, rest, ?_, ?_, hrest⟩
        · rw [List.flatten_cons, List.append_assoc, ← heq, List.take_append_drop]
        · refine List.forall_mem_cons.mpr ⟨?_, hparts⟩
          rw [List.length_take]
          omega

theorem length_flatten (h : ∀ block ∈ parts, block.length = 64) :
    parts.flatten.length = 64 * parts.length := by
  induction parts with
  | nil => rfl
  | cons block parts ih =>
      obtain ⟨hblock, hparts⟩ := List.forall_mem_cons.mp h
      rw [List.flatten_cons, List.length_append, hblock, ih hparts, List.length_cons, Nat.mul_succ,
        Nat.add_comm]

theorem absorb_parts (s : State) (h : ∀ block ∈ parts, block.length = 64) :
    absorb s (parts.flatten ++ rest) = absorb (parts.foldl compress s) rest := by
  induction parts generalizing s with
  | nil => rfl
  | cons block parts ih =>
      obtain ⟨hblock, hparts⟩ := List.forall_mem_cons.mp h
      rw [List.flatten_cons, List.append_assoc, absorb_append_block s hblock, ih _ hparts]
      rfl

theorem blocks_parts (h : ∀ block ∈ parts, block.length = 64) (hrest : rest.length < 64) :
    blocks (parts.flatten ++ rest) = parts := by
  induction parts with
  | nil => exact blocks_of_lt hrest
  | cons block parts ih =>
      obtain ⟨hblock, hparts⟩ := List.forall_mem_cons.mp h
      rw [List.flatten_cons, List.append_assoc, blocks_append_block hblock, ih hparts]

theorem words_foldl (s : State) (h : ∀ block ∈ parts, block.length = 64) :
    (parts.foldl compress s).words = parts.foldl Standard.compress s.words := by
  induction parts generalizing s with
  | nil => rfl
  | cons block parts ih =>
      obtain ⟨hblock, hparts⟩ := List.forall_mem_cons.mp h
      rw [List.foldl_cons, List.foldl_cons, ih _ hparts, words_compress hblock]

end

/-! ### Padding -/

theorem lengthBytes_eq (n : Nat) : lengthBytes n = Standard.bytesOf 8 (BitVec.ofNat 64 n) := by
  have hbyte : ∀ shift ≤ 56, UInt8.ofNat (n >>> shift) =
      UInt8.ofBitVec ((BitVec.ofNat 64 n).extractLsb' shift 8) := by
    intro shift hshift
    have hsplit : 2 ^ 64 = 2 ^ shift * 2 ^ (64 - shift) := by
      rw [← Nat.pow_add, Nat.add_sub_of_le (by omega)]
    apply UInt8.toNat_inj.mp
    rw [UInt8.toNat_ofNat', UInt8.toNat_ofBitVec, BitVec.extractLsb'_toNat, BitVec.toNat_ofNat,
      Nat.shiftRight_eq_div_pow, Nat.shiftRight_eq_div_pow, hsplit, Nat.mod_mul_right_div_self,
      Nat.mod_mod_of_dvd _ (Nat.pow_dvd_pow 2 (by omega))]
  have hshifts : [56, 48, 40, 32, 24, 16, 8, 0] =
      (List.range 8).map fun i => 8 * (8 - 1 - i) := by
    decide
  rw [lengthBytes, hshifts, List.map_map, Standard.bytesOf]
  refine List.map_congr_left fun i _ => ?_
  exact hbyte (8 * (8 - 1 - i)) (by omega)

/-- The length of a padded message is a multiple of 64. -/
theorem length_padding (n : Nat) : (n + (padding n).length) % 64 = 0 := by
  simp only [padding, lengthBytes, List.length_cons, List.length_append, List.length_replicate,
    List.length_map, List.length_nil]
  omega

/-- The padding is as the standard asks, and no other is. -/
theorem pads_iff {message padded : Bytes} {zeros : Nat} :
    Standard.Pads message padded zeros ↔
      padded = message ++ padding message.length ∧ zeros = (119 - message.length % 64) % 64 := by
  constructor
  · intro h
    have hleast := h.least (7 + 8 * ((119 - message.length % 64) % 64)) (by omega)
    have hfills := h.fills
    have hzeros : zeros = (119 - message.length % 64) % 64 := by omega
    refine ⟨?_, hzeros⟩
    rw [h.eq, padding, lengthBytes_eq, hzeros]
  · intro h
    obtain ⟨rfl, rfl⟩ := h
    constructor
    case eq => rw [padding, lengthBytes_eq]
    case fills => omega
    case least =>
      intro k hk
      omega

/-! ### Messages -/

/-- Each message has one digest, as the standard describes it. -/
theorem digests_iff {message digest : Bytes} :
    Standard.Digests message digest ↔ digest = hash message := by
  have hparts : ∀ parts : List Bytes, (∀ block ∈ parts, block.length = 64) →
      parts.flatten = message ++ padding message.length →
      hash message = (parts.foldl Standard.compress Standard.start).toBytes := by
    intro parts hblocks heq
    have hcut : blocks (message ++ padding message.length) = parts := by
      rw [← heq, ← List.append_nil parts.flatten]
      exact blocks_parts hblocks (by decide)
    rw [hash, hcut, ← words_initial, ← words_foldl _ hblocks]
    rfl
  constructor
  · intro h
    obtain ⟨parts, zeros, hpads, hblocks, rfl⟩ := h
    exact (hparts parts hblocks (pads_iff.mp hpads).1).symm
  · intro h
    obtain ⟨parts, rest, heq, hblocks, hrest⟩ := exists_parts (message ++ padding message.length)
    have hlength : rest.length = 0 := by
      have hall := length_flatten hblocks
      have hwhole := length_padding message.length
      rw [← List.length_append, heq, List.length_append] at hwhole
      omega
    rw [List.length_eq_zero_iff.mp hlength, List.append_nil] at heq
    refine ⟨parts, _, pads_iff.mpr ⟨heq.symm, rfl⟩, hblocks, ?_⟩
    rw [h, hparts parts hblocks heq.symm]

/-! ### Messages in pieces -/

/-- A digest under way that has taken a message. -/
def Stream.ofMessage (message : Bytes) : Stream :=
  ⟨(absorb .initial message).1, (absorb .initial message).2, message.length⟩

theorem Stream.empty_eq : Stream.empty = ofMessage [] := by
  rw [ofMessage, absorb_of_lt _ (by decide)]
  rfl

/-- Blocks are taken as soon as they are full, but it does not matter when. -/
theorem absorb_append (s : State) (bytes more : Bytes) :
    absorb s (bytes ++ more) = absorb (absorb s bytes).1 ((absorb s bytes).2 ++ more) := by
  obtain ⟨parts, rest, rfl, hblocks, hrest⟩ := exists_parts bytes
  rw [List.append_assoc, absorb_parts s hblocks, absorb_parts s hblocks, absorb_of_lt _ hrest]

theorem Stream.push_ofMessage (message piece : Bytes) :
    (ofMessage message).push piece = ofMessage (message ++ piece) := by
  rw [ofMessage.eq_def (message ++ piece), absorb_append, List.length_append]
  rfl

theorem foldl_blocks (s : State) (bytes : Bytes) :
    (blocks bytes).foldl compress s = (absorb s bytes).1 := by
  obtain ⟨parts, rest, rfl, hblocks, hrest⟩ := exists_parts bytes
  rw [blocks_parts hblocks hrest, absorb_parts s hblocks, absorb_of_lt _ hrest]

theorem Stream.finish_ofMessage (message : Bytes) : (ofMessage message).finish = hash message := by
  rw [hash, foldl_blocks, absorb_append]
  rfl

/-- Taking a message in one piece gives its digest. -/
theorem Stream.finish_push (message : Bytes) : (Stream.empty.push message).finish = hash message := by
  rw [Stream.empty_eq, Stream.push_ofMessage, List.nil_append, Stream.finish_ofMessage]

end Sha256

end SignedPayments
