import BearerLogin.Base64
import BearerLogin.Proofs.Steps

/-! Padded Base64 has one text for each list of bytes: decoding accepts exactly what encoding
writes.  The last group is read symbol by symbol, so it is described by the numbers of its symbols
and the padding behind them; a group before it is arithmetic on four numbers below 64. -/

namespace BearerLogin.Base64

theorem value?_symbol : ∀ n < 64, value? standard (symbol standard n) = some n := by
  decide

theorem symbol_ne_pad : ∀ n < 64, symbol standard n ≠ pad := by
  decide

theorem eq_symbol_of_value? {b : UInt8} {n : Nat} (h : value? standard b = some n) :
    n < 64 ∧ b = symbol standard n := by
  have all : ∀ k : Fin 256, ∀ n ∈ value? standard (UInt8.ofNat k),
      n < 64 ∧ UInt8.ofNat k = symbol standard n := by
    decide +kernel
  have found := all ⟨b.toNat, b.toNat_lt⟩ n
  rw [UInt8.ofNat_toNat] at found
  exact found h

theorem valueAt_symbol (offset : Nat) {n : Nat} (small : n < 64) :
    valueAt standard offset (symbol standard n) = .ok n := by
  rw [valueAt, value?_symbol n small]

theorem valueAt_eq_ok {offset n : Nat} {b : UInt8} :
    valueAt standard offset b = .ok n ↔ n < 64 ∧ b = symbol standard n := by
  constructor
  · intro h
    unfold valueAt at h
    rcases value : value? standard b with _ | m
    · simp [value] at h
    · simp only [value, Except.ok.injEq] at h
      subst h
      exact eq_symbol_of_value? value
  · rintro ⟨small, rfl⟩
    exact valueAt_symbol offset small

/-! ### The last group -/

/-- The symbols of numbers and the padding behind them. -/
def written (values : List Nat) (pads : Nat) : List UInt8 :=
  values.map (symbol standard) ++ List.replicate pads pad

/-- After the first padding nothing but padding is read. -/
theorem readLast_padding (offset i : Nat) (group : LastGroup) {first : Nat}
    {result : LastGroup} {input : List UInt8}
    (padded : group.firstPad = some first) (late : 2 ≤ i) :
    readLast standard offset i group input = .ok result ↔
      ∃ pads, input = List.replicate pads pad ∧
        result = { group with pads := group.pads + pads } := by
  induction input generalizing i group with
  | nil =>
    constructor
    · intro h
      cases h
      exact ⟨0, rfl, rfl⟩
    · rintro ⟨_ | pads, empty, rfl⟩
      · rfl
      · cases empty
  | cons b rest ih =>
    unfold readLast
    by_cases isPad : b = pad
    · have again := ih (i + 1) { group with firstPad := some first, pads := group.pads + 1 } rfl
        (by omega)
      simp only [isPad, if_true, show ¬i < 2 by omega, if_false, padded, Option.getD_some, again]
      constructor
      · rintro ⟨pads, rfl, rfl⟩
        exact ⟨pads + 1, rfl, by simp; omega⟩
      · rintro ⟨_ | pads, split, rfl⟩
        · cases split
        · exact ⟨pads, (List.cons.inj split).2, by simp; omega⟩
    · simp only [isPad, if_false, padded]
      constructor
      · intro h
        cases h
      · rintro ⟨_ | pads, split, -⟩
        · cases split
        · exact absurd (List.cons.inj split).1 isPad

/-- What is read of a group are symbols and, behind at least two of them, padding. -/
theorem written_of_readLast {offset i : Nat} {group result : LastGroup} {input : List UInt8}
    (unpadded : group.firstPad = none)
    (h : readLast standard offset i group input = .ok result) :
    ∃ values pads, input = written values pads ∧ (∀ n ∈ values, n < 64) ∧
      result.values = group.values ++ values ∧ result.pads = group.pads + pads := by
  induction input generalizing i group with
  | nil =>
    cases h
    exact ⟨[], 0, rfl, by simp, by simp, rfl⟩
  | cons b rest ih =>
    obtain ⟨before, symbols, _, padsBefore⟩ := group
    cases unpadded
    unfold readLast at h
    -- The first padding ends the induction: behind it `readLast_padding` takes over.
    by_cases isPad : b = pad
    · simp only [isPad, if_true] at h
      by_cases early : i < 2
      · simp [early] at h
      · simp only [early, if_false, Option.getD_none] at h
        obtain ⟨pads, rfl, rfl⟩ := (readLast_padding offset (i + 1) _ rfl (by omega)).mp h
        exact ⟨[], pads + 1, by rw [isPad]; rfl, by simp, by simp, by simp; omega⟩
    · simp only [isPad, if_false] at h
      rcases value : valueAt standard (offset + i) b with fault | n
      · simp [value] at h
      · obtain ⟨small, rfl⟩ := valueAt_eq_ok.mp value
        simp only [value] at h
        obtain ⟨values, pads, rfl, others, same, count⟩ := ih rfl h
        refine ⟨n :: values, pads, rfl, ?_, by simp [same], count⟩
        exact List.forall_mem_cons.mpr ⟨small, others⟩

theorem readLast_written (offset i : Nat) (group : LastGroup) {values : List Nat} (pads : Nat)
    (unpadded : group.firstPad = none) (small : ∀ n ∈ values, n < 64)
    (late : 2 ≤ i + values.length) :
    ∃ result, readLast standard offset i group (written values pads) = .ok result ∧
      result.values = group.values ++ values ∧ result.pads = group.pads + pads := by
  induction values generalizing i group with
  | nil =>
    rcases pads with _ | pads
    · exact ⟨group, rfl, by simp, rfl⟩
    · have notEarly : ¬i < 2 := Nat.not_lt.mpr late
      have padding := (readLast_padding offset (i + 1)
        { group with firstPad := some i, pads := group.pads + 1 } rfl (by omega)).mpr
        ⟨pads, rfl, rfl⟩
      refine ⟨{ group with firstPad := some i, pads := group.pads + 1 + pads }, ?_, by simp, ?_⟩
      · show readLast standard offset i group (pad :: List.replicate pads pad) = _
        unfold readLast
        simp only [if_true, notEarly, if_false, unpadded, Option.getD_none]
        exact padding
      · show group.pads + 1 + pads = group.pads + (pads + 1)
        omega
  | cons n rest ih =>
    obtain ⟨before, symbols, _, padsBefore⟩ := group
    cases unpadded
    obtain ⟨bound, others⟩ := List.forall_mem_cons.mp small
    obtain ⟨result, read, same, count⟩ := ih (i + 1)
      { values := before ++ [n], symbols := symbols ++ [symbol standard n], pads := padsBefore }
      rfl others (by simp at late; omega)
    refine ⟨result, ?_, by simp [same], count⟩
    show readLast standard offset i _ (symbol standard n :: written rest pads) = _
    unfold readLast
    simp only [symbol_ne_pad n bound, if_false, valueAt_symbol _ bound, read]

theorem decodeLast_of_readLast {offset : Nat} {input bytes : List UInt8} {group : LastGroup}
    (some : input ≠ []) (read : readLast standard offset 0 {} input = .ok group) :
    decodeLast standard offset input = .ok bytes ↔
      2 ≤ group.values.length ∧ (group.pads + group.values.length) % 4 = 0 ∧
        lastBytes group.values = (bytes, 0) := by
  unfold decodeLast
  simp only [read, some, ne_eq, not_false_eq_true, or_true, true_and]
  by_cases two : group.values.length < 2
  · simp [two]
  · by_cases canonical : (group.pads + group.values.length) % 4 = 0
    · have kept : paddingCanonical standard group = true := by
        simp [paddingCanonical, standard, canonical]
      rcases lastBytes group.values with ⟨decoded, spare⟩
      by_cases unspared : spare = 0
      · simp [two, canonical, kept, unspared, Nat.not_lt.mp two]
      · simp [two, kept, unspared]
    · have refused : paddingCanonical standard group = false := by
        simp [paddingCanonical, standard, canonical]
      simp [two, refused, canonical]

/-- A last group stands for bytes where it has four places, at least two of them symbols, and its
last symbol carries no spare bits. -/
theorem decodeLast_eq_ok {offset : Nat} {input bytes : List UInt8} (some : input ≠ [])
    (short : input.length ≤ 4) :
    decodeLast standard offset input = .ok bytes ↔
      ∃ values pads, input = written values pads ∧ (∀ n ∈ values, n < 64) ∧
        2 ≤ values.length ∧ values.length + pads = 4 ∧ lastBytes values = (bytes, 0) := by
  constructor
  · intro h
    rcases read : readLast standard offset 0 {} input with fault | group
    · unfold decodeLast at h
      simp [read] at h
    · obtain ⟨two, four, bytes_eq⟩ := (decodeLast_of_readLast some read).mp h
      obtain ⟨values, pads, rfl, small, same, count⟩ := written_of_readLast rfl read
      obtain rfl : group.values = values := same
      have length : (written group.values pads).length = group.values.length + pads := by
        simp [written]
      refine ⟨group.values, pads, rfl, small, two, ?_, bytes_eq⟩
      simp at count
      omega
  · rintro ⟨values, pads, rfl, small, two, four, bytes_eq⟩
    obtain ⟨group, read, same, count⟩ := readLast_written offset 0 {} pads rfl small (by omega)
    obtain rfl : group.values = values := same
    refine (decodeLast_of_readLast some read).mpr ⟨two, ?_, bytes_eq⟩
    simp at count
    omega

/-! ### Whole texts -/

theorem toNat_ofNat_of_lt {n : Nat} (small : n < 256) : (UInt8.ofNat n).toNat = n := by
  rw [UInt8.toNat_ofNat', Nat.mod_eq_of_lt small]

theorem groupBytes_of_bytes (a b c : UInt8) :
    groupBytes (a.toNat / 4) (a.toNat % 4 * 16 + b.toNat / 16) (b.toNat % 16 * 4 + c.toNat / 64)
      (c.toNat % 64) = [a, b, c] := by
  have := a.toNat_lt
  have := b.toNat_lt
  have := c.toNat_lt
  have first : a.toNat / 4 * 4 + (a.toNat % 4 * 16 + b.toNat / 16) / 16 = a.toNat := by omega
  have second : (a.toNat % 4 * 16 + b.toNat / 16) % 16 * 16 +
      (b.toNat % 16 * 4 + c.toNat / 64) / 4 = b.toNat := by omega
  have third : (b.toNat % 16 * 4 + c.toNat / 64) % 4 * 64 + c.toNat % 64 = c.toNat := by omega
  simp only [groupBytes, first, second, third, UInt8.ofNat_toNat]

theorem encode_groupBytes {v : Variant} {w x y z : Nat} (hw : w < 64) (hx : x < 64) (hy : y < 64)
    (hz : z < 64) (rest : List UInt8) :
    encode v (groupBytes w x y z ++ rest) =
      symbol v w :: symbol v x :: symbol v y :: symbol v z :: encode v rest := by
  have first : (w * 4 + x / 16) / 4 = w := by omega
  have second : (w * 4 + x / 16) % 4 * 16 + (x % 16 * 16 + y / 4) / 16 = x := by omega
  have third : (x % 16 * 16 + y / 4) % 16 * 4 + (y % 4 * 64 + z) / 64 = y := by omega
  have fourth : (y % 4 * 64 + z) % 64 = z := by omega
  simp only [groupBytes, List.cons_append, List.nil_append, encode,
    toNat_ofNat_of_lt (show w * 4 + x / 16 < 256 by omega),
    toNat_ofNat_of_lt (show x % 16 * 16 + y / 4 < 256 by omega),
    toNat_ofNat_of_lt (show y % 4 * 64 + z < 256 by omega), first, second, third, fourth]

theorem encode_one {w x : Nat} (hw : w < 64) (hx : x < 64) (unspared : x % 16 = 0) :
    encode standard [UInt8.ofNat (w * 4 + x / 16)] = written [w, x] 2 := by
  have first : (w * 4 + x / 16) / 4 = w := by omega
  have second : (w * 4 + x / 16) % 4 * 16 = x := by omega
  simp only [encode, toNat_ofNat_of_lt (show w * 4 + x / 16 < 256 by omega), first, second]
  rfl

theorem encode_two {w x y : Nat} (hw : w < 64) (hx : x < 64) (hy : y < 64) (unspared : y % 4 = 0) :
    encode standard [UInt8.ofNat (w * 4 + x / 16), UInt8.ofNat (x % 16 * 16 + y / 4)] =
      written [w, x, y] 1 := by
  have first : (w * 4 + x / 16) / 4 = w := by omega
  have second : (w * 4 + x / 16) % 4 * 16 + (x % 16 * 16 + y / 4) / 16 = x := by omega
  have third : (x % 16 * 16 + y / 4) % 16 * 4 = y := by omega
  simp only [encode, toNat_ofNat_of_lt (show w * 4 + x / 16 < 256 by omega),
    toNat_ofNat_of_lt (show x % 16 * 16 + y / 4 < 256 by omega), first, second, third]
  rfl

/-- The last group is what encoding writes for one to three bytes. -/
theorem encode_lastBytes {values : List Nat} {pads : Nat} {bytes : List UInt8}
    (small : ∀ n ∈ values, n < 64) (two : 2 ≤ values.length) (four : values.length + pads = 4)
    (bytes_eq : lastBytes values = (bytes, 0)) :
    bytes ≠ [] ∧ written values pads = encode standard bytes := by
  rcases values with _ | ⟨w, _ | ⟨x, _ | ⟨y, _ | ⟨z, _ | ⟨extra, more⟩⟩⟩⟩⟩
  · simp at two
  · simp at two
  · obtain rfl : pads = 2 := by simp at four; omega
    obtain ⟨rfl, unspared⟩ := Prod.mk.inj bytes_eq
    exact ⟨by simp, (encode_one (small w (by simp)) (small x (by simp)) unspared).symm⟩
  · obtain rfl : pads = 1 := by simp at four; omega
    obtain ⟨rfl, unspared⟩ := Prod.mk.inj bytes_eq
    exact ⟨by simp, (encode_two (small w (by simp)) (small x (by simp)) (small y (by simp))
      unspared).symm⟩
  · obtain rfl : pads = 0 := by simp at four; omega
    obtain ⟨rfl, -⟩ := Prod.mk.inj bytes_eq
    have whole := encode_groupBytes (v := standard) (small w (by simp)) (small x (by simp))
      (small y (by simp)) (small z (by simp)) []
    rw [List.append_nil] at whole
    exact ⟨by simp [groupBytes], whole.symm⟩
  · simp at four
    omega

theorem encode_ne_nil {v : Variant} {bytes : List UInt8} (some : bytes ≠ []) :
    encode v bytes ≠ [] := by
  rcases bytes with _ | ⟨a, _ | ⟨b, _ | ⟨c, rest⟩⟩⟩
  · exact absurd rfl some
  · simp [encode]
  · simp [encode]
  · simp [encode]

theorem decodeGroups_of_short {offset : Nat} {input : List UInt8} (short : input.length ≤ 4) :
    decodeGroups standard offset input = decodeLast standard offset input := by
  rcases input with _ | ⟨a, _ | ⟨b, _ | ⟨c, _ | ⟨d, _ | ⟨e, rest⟩⟩⟩⟩⟩
  · rfl
  · rfl
  · rfl
  · rfl
  · rfl
  · simp at short
    omega

theorem decodeGroups_written (offset pads : Nat) {values : List Nat} {bytes : List UInt8}
    (small : ∀ n ∈ values, n < 64) (two : 2 ≤ values.length) (four : values.length + pads = 4)
    (bytes_eq : lastBytes values = (bytes, 0)) :
    decodeGroups standard offset (written values pads) = .ok bytes := by
  have length : (written values pads).length = 4 := by simp [written, four]
  have some : written values pads ≠ [] := List.ne_nil_of_length_pos (by omega)
  rw [decodeGroups_of_short length.le]
  exact (decodeLast_eq_ok some length.le).mpr ⟨values, pads, rfl, small, two, four, bytes_eq⟩

/-- A group of four symbols with more behind it. -/
theorem decodeGroups_group (offset : Nat) {w x y z : Nat} {rest : List UInt8} (hw : w < 64)
    (hx : x < 64) (hy : y < 64) (hz : z < 64) (more : rest ≠ []) :
    decodeGroups standard offset (symbol standard w :: symbol standard x :: symbol standard y ::
        symbol standard z :: rest) =
      (decodeGroups standard (offset + 4) rest).map (groupBytes w x y z ++ ·) := by
  obtain ⟨e, rest, rfl⟩ := List.exists_cons_of_ne_nil more
  simp only [decodeGroups, valueAt_symbol _ hw, valueAt_symbol _ hx, valueAt_symbol _ hy,
    valueAt_symbol _ hz]
  rcases decodeGroups standard (offset + 4) (e :: rest) with fault | bytes <;> rfl

theorem decodeGroups_encode (offset : Nat) {bytes : List UInt8} (some : bytes ≠ []) :
    decodeGroups standard offset (encode standard bytes) = .ok bytes := by
  fun_induction encode standard bytes generalizing offset with
  | case1 => exact absurd rfl some
  | case2 a =>
    have bound := a.toNat_lt
    have first : a.toNat / 4 * 4 + a.toNat % 4 * 16 / 16 = a.toNat := by omega
    have spare : a.toNat % 4 * 16 % 16 = 0 := by omega
    have bytes_eq : lastBytes [a.toNat / 4, a.toNat % 4 * 16] = ([a], 0) := by
      simp only [lastBytes, first, spare, UInt8.ofNat_toNat]
    exact decodeGroups_written offset 2 (by simp; omega) (by simp) rfl bytes_eq
  | case3 a b =>
    have bound := a.toNat_lt
    have bound' := b.toNat_lt
    have first : a.toNat / 4 * 4 + (a.toNat % 4 * 16 + b.toNat / 16) / 16 = a.toNat := by omega
    have second : (a.toNat % 4 * 16 + b.toNat / 16) % 16 * 16 + b.toNat % 16 * 4 / 4 =
        b.toNat := by omega
    have spare : b.toNat % 16 * 4 % 4 = 0 := by omega
    have bytes_eq : lastBytes [a.toNat / 4, a.toNat % 4 * 16 + b.toNat / 16, b.toNat % 16 * 4] =
        ([a, b], 0) := by
      simp only [lastBytes, first, second, spare, UInt8.ofNat_toNat]
    exact decodeGroups_written offset 1 (by simp; omega) (by simp) rfl bytes_eq
  | case4 a b c rest ih =>
    have bound := a.toNat_lt
    have bound' := b.toNat_lt
    have bound'' := c.toNat_lt
    have group := groupBytes_of_bytes a b c
    -- A whole group at the end is read as a last group without padding.
    rcases rest with _ | ⟨d, rest⟩
    · have bytes_eq : lastBytes [a.toNat / 4, a.toNat % 4 * 16 + b.toNat / 16,
          b.toNat % 16 * 4 + c.toNat / 64, c.toNat % 64] = ([a, b, c], 0) := by
        rw [← group]
        rfl
      exact decodeGroups_written offset 0 (by simp; omega) (by simp) rfl bytes_eq
    · rw [decodeGroups_group offset (by omega) (by omega) (by omega) (by omega)
        (encode_ne_nil (by simp)), ih _ (by simp), group]
      rfl

theorem encode_of_decodeGroups {offset : Nat} {input bytes : List UInt8} (some : input ≠ [])
    (h : decodeGroups standard offset input = .ok bytes) :
    bytes ≠ [] ∧ input = encode standard bytes := by
  fun_induction decodeGroups standard offset input generalizing bytes with
  | case1 offset a b c d e rest ih =>
    obtain ⟨w, hw, h⟩ := bind_eq_ok.mp h
    obtain ⟨x, hx, h⟩ := bind_eq_ok.mp h
    obtain ⟨y, hy, h⟩ := bind_eq_ok.mp h
    obtain ⟨z, hz, h⟩ := bind_eq_ok.mp h
    obtain ⟨decoded, behind, h⟩ := bind_eq_ok.mp h
    cases h
    obtain ⟨smallW, rfl⟩ := valueAt_eq_ok.mp hw
    obtain ⟨smallX, rfl⟩ := valueAt_eq_ok.mp hx
    obtain ⟨smallY, rfl⟩ := valueAt_eq_ok.mp hy
    obtain ⟨smallZ, rfl⟩ := valueAt_eq_ok.mp hz
    obtain ⟨-, same⟩ := ih (by simp) behind
    rw [encode_groupBytes smallW smallX smallY smallZ, ← same]
    exact ⟨by simp [groupBytes], rfl⟩
  | case2 offset input last =>
    have short : input.length ≤ 4 := by
      rcases input with _ | ⟨a, _ | ⟨b, _ | ⟨c, _ | ⟨d, _ | ⟨e, rest⟩⟩⟩⟩⟩
      · simp
      · simp
      · simp
      · simp
      · simp
      · exact absurd rfl (last a b c d e rest)
    obtain ⟨values, pads, rfl, small, two, four, bytes_eq⟩ := (decodeLast_eq_ok some short).mp h
    exact encode_lastBytes small two four bytes_eq

theorem length_encode_mod (bytes : List UInt8) : (encode standard bytes).length % 4 = 0 := by
  fun_induction encode standard bytes with
  | case1 => rfl
  | case2 a => simp [padding, standard]
  | case3 a b => simp [padding, standard]
  | case4 a b c rest ih =>
    simp only [List.length_cons]
    omega

/-- An encoding consists of symbols and padding. -/
theorem mem_encode {bytes : List UInt8} {b : UInt8} (member : b ∈ encode standard bytes) :
    (∃ n < 64, b = symbol standard n) ∨ b = pad := by
  have symbols : ∀ n < 64, b = symbol standard n → (∃ n < 64, b = symbol standard n) ∨ b = pad :=
    fun n small same => .inl ⟨n, small, same⟩
  have low : ∀ a : UInt8, a.toNat < 256 := fun a => a.toNat_lt
  fun_induction encode standard bytes with
  | case1 => cases member
  | case2 a =>
    have := low a
    simp only [padding, standard, if_true, List.mem_append, List.mem_cons, List.not_mem_nil,
      or_false, List.mem_replicate] at member
    rcases member with (same | same) | ⟨-, same⟩
    · exact symbols _ (by omega) same
    · exact symbols _ (by omega) same
    · exact .inr same
  | case3 a b' =>
    have := low a
    have := low b'
    simp only [padding, standard, if_true, List.mem_append, List.mem_cons, List.not_mem_nil,
      or_false, List.mem_replicate] at member
    rcases member with (same | same | same) | ⟨-, same⟩
    · exact symbols _ (by omega) same
    · exact symbols _ (by omega) same
    · exact symbols _ (by omega) same
    · exact .inr same
  | case4 a b' c rest ih =>
    have := low a
    have := low b'
    have := low c
    simp only [List.mem_cons] at member
    rcases member with same | same | same | same | member
    · exact symbols _ (by omega) same
    · exact symbols _ (by omega) same
    · exact symbols _ (by omega) same
    · exact symbols _ (by omega) same
    · exact ih member

/-- An encoding is ASCII text. -/
theorem lt_of_mem_encode {bytes : List UInt8} {b : UInt8} (member : b ∈ encode standard bytes) :
    b < 128 := by
  have symbols : ∀ n < 64, symbol standard n < 128 := by decide
  rcases mem_encode member with ⟨n, small, rfl⟩ | rfl
  · exact symbols n small
  · decide

/-- Decoding accepts exactly what encoding writes. -/
theorem decode_eq_ok {input bytes : List UInt8} :
    decode standard input = .ok bytes ↔ input = encode standard bytes := by
  unfold decode
  rcases last : input.getLast? with _ | b
  · obtain rfl := List.getLast?_eq_none_iff.mp last
    constructor
    · intro h
      cases h
      rfl
    · intro empty
      by_contra other
      exact encode_ne_nil (fun none => other (by rw [none])) empty.symm
  · have some : input ≠ [] := by
      rintro rfl
      cases last
    constructor
    · intro h
      simp only at h
      split at h
      · cases h
      · exact (encode_of_decodeGroups some h).2
    · rintro rfl
      have whole := length_encode_mod bytes
      simp only [show ¬(encode standard bytes).length % 4 = 1 by omega, false_and, if_false]
      refine decodeGroups_encode 0 ?_
      rintro rfl
      exact some rfl

end BearerLogin.Base64
