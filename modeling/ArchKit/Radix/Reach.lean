import ArchKit.Radix.Base58

/-! Which digit strings begin the conversion of a string of a fixed length. -/

namespace Radix
variable {source target : Nat} {digits more : List Nat}

theorem value_append (base : Nat) (first last : List Nat) :
    value base (first ++ last) = value base first * base ^ last.length + value base last := by
  rw [value, List.reverse_append, Nat.ofDigits_append, List.length_reverse, Nat.mul_comm, Nat.add_comm]
  rfl

theorem digitsOf_shift (large : 1 < source) {number : Nat} (positive : 0 < number) (count : Nat) :
    digitsOf source (number * source ^ count) = digitsOf source number ++ List.replicate count 0 := by
  rw [digitsOf, Nat.mul_comm, Nat.digits_base_pow_mul large positive, List.reverse_append, List.reverse_replicate]
  rfl

theorem digitsOf_length_mono {first last : Nat} (small : first ≤ last) :
    (digitsOf target first).length ≤ (digitsOf target last).length := by
  simpa [digitsOf] using Nat.le_length_digits_le target first last small

theorem digitsOf_length_le_iff (large : 1 < target) {number count : Nat} :
    (digitsOf target number).length ≤ count ↔ number < target ^ count := by
  simpa [digitsOf] using Nat.digits_length_le_iff large number

theorem lt_digitsOf_length_iff (large : 1 < target) {number count : Nat} :
    count < (digitsOf target number).length ↔ target ^ count ≤ number := by
  simpa [digitsOf] using Nat.lt_digits_length_iff large number

/-- Longer strings have longer conversions. -/
theorem convert_length_append (positive : 0 < source) :
    (convert source target digits).length ≤ (convert source target (digits ++ more)).length := by
  have zeros : (leadingZeros digits).length ≤ (leadingZeros (digits ++ more)).length := by
    rw [leadingZeros, leadingZeros, List.takeWhile_append]
    split
    next => exact Nat.le_trans (List.takeWhile_prefix _).length_le (by simp)
    next => exact Nat.le_refl _
  have larger : value source digits ≤ value source (digits ++ more) := by
    rw [value_append]
    exact Nat.le_add_right_of_le (Nat.le_mul_of_pos_right _ (Nat.pow_pos positive))
  rw [convert_length, convert_length]
  exact Nat.add_le_add zeros (digitsOf_length_mono larger)

/-- Between two powers of a base lies a multiple of the number by a power of any smaller base. -/
theorem exists_shift (large : 1 < source) (smaller : source ≤ target) {number count : Nat} (positive : 0 < number)
    (bounded : number < target ^ (count + 1)) :
    ∃ shift, target ^ count ≤ number * source ^ shift ∧ number * source ^ shift < target ^ (count + 1) := by
  have exceeds : ∃ shift, target ^ (count + 1) ≤ number * source ^ (shift + 1) := by
    refine ⟨target ^ (count + 1), Nat.le_trans (Nat.lt_pow_self large).le ?_⟩
    exact Nat.le_trans (Nat.pow_le_pow_right large.le (Nat.le_succ _)) (Nat.le_mul_of_pos_left _ positive)
  refine ⟨Nat.find exceeds, ?_, ?_⟩
  · by_contra below
    have next := Nat.find_spec exceeds
    have step : number * source ^ (Nat.find exceeds + 1) < target ^ (count + 1) := calc
      number * source ^ (Nat.find exceeds + 1) = number * source ^ Nat.find exceeds * source := by
        rw [Nat.pow_succ, Nat.mul_assoc]
      _ < target ^ count * source := Nat.mul_lt_mul_of_pos_right (not_le.mp below) (Nat.lt_of_succ_lt large)
      _ ≤ target ^ (count + 1) := Nat.mul_le_mul_left _ smaller
    omega
  · cases found : Nat.find exceeds with
    | zero => simpa using bounded
    | succ earlier =>
      have minimal := Nat.find_min exceeds (show earlier < Nat.find exceeds by omega)
      exact not_le.mp minimal

/-- A string begins a conversion exactly when its own conversion is short enough. -/
theorem convert_begins_iff (large : 1 < source) (smaller : source ≤ target) (small : ∀ digit ∈ digits, digit < source)
    (size : Nat) :
    (∃ whole, whole.length = size ∧ (∀ digit ∈ whole, digit < target) ∧ digits <+: convert target source whole) ↔
      (convert source target digits).length ≤ size := by
  constructor
  · intro begins
    obtain ⟨whole, length, bounded, more, joined⟩ := begins
    have inverse := convert_convert source (Nat.lt_of_lt_of_le large smaller) bounded
    rw [← joined] at inverse
    rw [← length, ← inverse]
    exact convert_length_append (Nat.lt_of_succ_lt large)
  · intro fits
    obtain ⟨rest, shape, leading⟩ := split_leadingZeros digits
    generalize (leadingZeros digits).length = zeros at shape
    have zerosOf : leadingZeros digits = List.replicate zeros 0 := by rw [shape, leadingZeros_append zeros leading]
    have restSmall : ∀ digit ∈ rest, digit < source := fun digit member =>
      small digit (by rw [shape]; exact List.mem_append_right _ member)
    rw [convert_length, zerosOf, List.length_replicate, shape, value_append_zeros] at fits
    by_cases none : rest = []
    · have zero : convert target source (List.replicate size 0) = List.replicate size 0 := by
        have whole : leadingZeros (List.replicate size 0 ++ []) = _ := leadingZeros_append size (fun _ _ same => by cases same)
        have nothing := value_append_zeros target size []
        rw [List.append_nil] at whole nothing
        rw [convert, whole, nothing]
        simp [value, digitsOf]
      refine ⟨List.replicate size 0, List.length_replicate, ?_, ?_⟩
      · intro digit member
        rw [List.eq_of_mem_replicate member]
        omega
      · rw [zero, shape, none, List.append_nil, List.prefix_replicate_iff]
        rw [none] at fits
        simp only [List.length_replicate, and_true]
        omega
    · obtain ⟨digit, others, first⟩ := List.exists_cons_of_ne_nil none
      have own : digitsOf source (value source rest) = rest := digitsOf_value large restSmall leading
      have positive : 0 < value source rest := by
        refine Nat.pos_of_ne_zero (fun zero => none ?_)
        rw [← own, zero]
        simp [digitsOf]
      have targetLarge : 1 < target := Nat.lt_of_lt_of_le large smaller
      have nonempty : 0 < (digitsOf target (value source rest)).length := (lt_digitsOf_length_iff targetLarge).mpr positive
      obtain ⟨count, room⟩ : ∃ count, size = zeros + (count + 1) := ⟨size - zeros - 1, by omega⟩
      have bounded : value source rest < target ^ (count + 1) := (digitsOf_length_le_iff targetLarge).mp (by omega)
      obtain ⟨shift, atLeast, below⟩ := exists_shift large smaller positive bounded
      let number := value source rest * source ^ shift
      have length : (digitsOf target number).length = count + 1 :=
        Nat.le_antisymm ((digitsOf_length_le_iff targetLarge).mpr below) ((lt_digitsOf_length_iff targetLarge).mpr atLeast)
      refine ⟨List.replicate zeros 0 ++ digitsOf target number, by simp [length, room], ?_, ?_⟩
      · intro digit member
        rcases List.mem_append.mp member with zero | inside
        · rw [List.eq_of_mem_replicate zero]
          omega
        · exact digitsOf_lt targetLarge inside
      · rw [convert, leadingZeros_append zeros (head_digitsOf _), value_append_zeros, value_digitsOf,
          digitsOf_shift large positive, own, shape, ← List.append_assoc]
        exact List.prefix_append ..

/-- A map that separates the elements of two lists keeps and reflects beginnings. -/
theorem map_begins_iff {α β : Type} {f : α → β} {first whole : List α}
    (separates : ∀ one ∈ first, ∀ other ∈ whole, f one = f other → one = other) :
    first.map f <+: whole.map f ↔ first <+: whole := by
  induction first generalizing whole with
  | nil => simp
  | cons one rest ih =>
    cases whole with
    | nil => simp
    | cons other others =>
      rw [List.map_cons, List.map_cons, List.cons_prefix_cons, List.cons_prefix_cons]
      refine and_congr ⟨separates one List.mem_cons_self other List.mem_cons_self, congrArg f⟩ (ih ?_)
      exact fun left member right inside => separates left (List.mem_cons_of_mem _ member) right (List.mem_cons_of_mem _ inside)

namespace Alphabet
variable {alphabet : Alphabet}

theorem spell_begins_iff {first whole : List Nat} (firstSmall : ∀ digit ∈ first, digit < alphabet.letters.length)
    (wholeSmall : ∀ digit ∈ whole, digit < alphabet.letters.length) :
    alphabet.spell first <+: alphabet.spell whole ↔ first <+: whole := by
  apply map_begins_iff
  intro one member other inside same
  have read := digit?_letter (firstSmall one member)
  rw [same, digit?_letter (wholeSmall other inside)] at read
  exact (Option.some.inj read).symm

/-- Letters of the alphabet can be read. -/
theorem read?_of_mem {letters : List Char} (known : ∀ letter ∈ letters, letter ∈ alphabet.letters) :
    ∃ digits, alphabet.read? letters = some digits := by
  induction letters with
  | nil => exact ⟨[], rfl⟩
  | cons letter letters ih =>
    obtain ⟨digits, read⟩ := ih (fun other member => known other (List.mem_cons_of_mem _ member))
    obtain ⟨digit, inside, same⟩ := List.mem_iff_getElem.mp (known letter List.mem_cons_self)
    have found : alphabet.digit? letter = some digit := by
      refine digit?_eq_some.mpr ⟨inside, ?_⟩
      rw [Alphabet.letter, List.getD_eq_getElem _ _ inside, same]
    exact ⟨digit :: digits, by simp only [read?, found, read]⟩

end Alphabet

/-- A text begins the Base58 encoding of some string of the given size exactly when it is itself
the encoding of a string that is not longer. -/
theorem base58_begins_iff {letters : List Char} {bytes : List UInt8} (decoded : base58Decode letters = some bytes)
    (size : Nat) : (∃ whole : List UInt8, whole.length = size ∧ letters <+: base58Encode whole) ↔ bytes.length ≤ size := by
  obtain ⟨digits, read, same⟩ := Option.map_eq_some_iff.mp decoded
  obtain ⟨small, spelled⟩ := Alphabet.read?_eq_some.mp read
  subst same spelled
  have digitsSmall : ∀ digit ∈ digits, digit < 58 := small
  rw [List.length_map, ← convert_begins_iff (by decide : 1 < 58) (by decide : 58 ≤ 256) digitsSmall size]
  constructor
  · intro begins
    obtain ⟨whole, length, joined⟩ := begins
    refine ⟨byteDigits whole, by simpa [byteDigits] using length, byteDigits_lt, ?_⟩
    exact (Alphabet.spell_begins_iff small (fun digit member => convert_lt (by decide) member)).mp joined
  · intro begins
    obtain ⟨whole, length, bounded, joined⟩ := begins
    refine ⟨whole.map UInt8.ofNat, by simpa using length, ?_⟩
    rw [base58Encode, byteDigits_ofNat bounded]
    exact (Alphabet.spell_begins_iff small (fun digit member => convert_lt (by decide) member)).mpr joined

end Radix
