import TrialRun.Text.Base64

/-!
# Base64 is read as it was written

What Base64 stands for is defined by its alphabet alone (`alphabet`): a character has the value of
its place there, four characters make up three bytes, and a last group that is filled up with equals
signs makes up one or two bytes and leaves no bit over (`decode?`).  Written bytes are read back
(`decode?_encode`), whatever they are and however many.
-/

set_option autoImplicit false

namespace TrialRun.Text.Base64

/-! ## Reading -/

/-- The characters in the order of their values. -/
def alphabet : List Char :=
  "ABCDEFGHIJKLMNOPQRSTUVWXYZabcdefghijklmnopqrstuvwxyz0123456789+/".toList

def value? (c : Char) : Option Nat := alphabet.idxOf? c

/-- The number that the values of characters make up, six bits each. -/
def number? (cs : List Char) : Option Nat :=
  cs.foldlM (fun n c => (value? c).map (n * 64 + ·)) 0

/-- The bytes that a text stands for.  Nothing but the alphabet is read, equals signs stand at the
end of the last group only, and no bits but zeros are left over there. -/
def decode? : List Char → Option (List UInt8)
  | [] => some []
  | [a, b, '=', '='] => do
    let n ← number? [a, b]
    if n % 16 = 0 then some [.ofNat (n / 16)] else none
  | [a, b, c, '='] => do
    let n ← number? [a, b, c]
    if n % 4 = 0 then some [.ofNat (n / 1024), .ofNat (n / 4)] else none
  | a :: b :: c :: d :: rest => do
    let n ← number? [a, b, c, d]
    let bytes ← decode? rest
    some (.ofNat (n / 65536) :: .ofNat (n / 256) :: .ofNat n :: bytes)
  | _ => none

/-! ## Characters -/

variable {n : Nat}

theorem value?_character (small : n < 64) : value? (character n) = some n := by
  revert n
  decide +kernel

theorem character_mem_alphabet (small : n < 64) : character n ∈ alphabet := by
  revert n
  decide +kernel

theorem character_ne_equals (small : n < 64) : character n ≠ '=' := by
  revert n
  decide +kernel

/-- The characters for some digits make up the number that has these digits. -/
theorem number?_characters (digits : List Nat) (small : ∀ d ∈ digits, d < 64)
    (joined : digits.foldl (fun m d => m * 64 + d) 0 = n) :
    number? (digits.map character) = some n := by
  suffices any : ∀ m, (digits.map character).foldlM (fun m c => (value? c).map (m * 64 + ·)) m =
      some (digits.foldl (fun m d => m * 64 + d) m) from joined ▸ any 0
  clear joined
  induction digits with
  | nil => exact fun _ => rfl
  | cons d rest ih =>
    obtain ⟨first, later⟩ := List.forall_mem_cons.mp small
    intro m
    rw [List.map_cons, List.foldlM_cons, value?_character first]
    exact ih later _

/-! ## Groups -/

/-- Three characters before a single equals sign stand for two bytes. -/
theorem decode?_filledOnce {a b c : Char} (full : c ≠ '=') :
    decode? [a, b, c, '='] = (do
      let n ← number? [a, b, c]
      if n % 4 = 0 then some [.ofNat (n / 1024), .ofNat (n / 4)] else none) := by
  rw [decode?]
  exact full

/-- A group that no equals sign ends is a whole one. -/
theorem decode?_whole {a b c d : Char} (full : d ≠ '=') (rest : List Char) :
    decode? (a :: b :: c :: d :: rest) = (do
      let n ← number? [a, b, c, d]
      let bytes ← decode? rest
      some (.ofNat (n / 65536) :: .ofNat (n / 256) :: .ofNat n :: bytes)) := by
  rw [decode?]
  · exact fun _ same _ => full same
  · exact fun same _ => full same

/-- A number stands for the byte that it ends with. -/
theorem ofNat_eq_of_mod {b : UInt8} (ending : n % 256 = b.toNat) : UInt8.ofNat n = b := by
  apply UInt8.toNat_inj.mp
  rw [UInt8.toNat_ofNat', ending]

/-- **Base64 is read as it was written.** -/
theorem decode?_encode (bytes : List UInt8) : decode? (encode bytes) = some bytes := by
  -- one byte, two bytes, or three and the rest: the digits of the number give its bytes back
  fun_induction encode bytes with
  | case1 => rfl
  | case2 a n =>
    have bound := a.toNat_lt
    have digits : number? [character (n / 64), character (n % 64)] = some n :=
      number?_characters [n / 64, n % 64] (by simp; omega) (by simp; omega)
    have first : UInt8.ofNat (n / 16) = a := ofNat_eq_of_mod (by omega)
    have spare : n % 16 = 0 := by omega
    rw [decode?, digits, ← first]
    exact if_pos spare
  | case3 a b n =>
    have bound := a.toNat_lt
    have bound' := b.toNat_lt
    have digits : number? [character (n / 4096), character (n / 64 % 64), character (n % 64)] =
        some n :=
      number?_characters [n / 4096, n / 64 % 64, n % 64] (by simp; omega)
        (by simp; omega)
    have first : UInt8.ofNat (n / 1024) = a := ofNat_eq_of_mod (by omega)
    have second : UInt8.ofNat (n / 4) = b := ofNat_eq_of_mod (by omega)
    have spare : n % 4 = 0 := by omega
    rw [decode?_filledOnce (character_ne_equals (by omega)), digits, ← first, ← second]
    exact if_pos spare
  | case4 a b c rest n ih =>
    have bound := a.toNat_lt
    have bound' := b.toNat_lt
    have bound'' := c.toNat_lt
    have digits : number? [character (n / 262144), character (n / 4096 % 64),
        character (n / 64 % 64), character (n % 64)] = some n :=
      number?_characters [n / 262144, n / 4096 % 64, n / 64 % 64, n % 64]
        (by simp; omega) (by simp; omega)
    have first : UInt8.ofNat (n / 65536) = a := ofNat_eq_of_mod (by omega)
    have second : UInt8.ofNat (n / 256) = b := ofNat_eq_of_mod (by omega)
    have third : UInt8.ofNat n = c := ofNat_eq_of_mod (by omega)
    rw [decode?_whole (character_ne_equals (by omega)), digits, ih, ← first, ← second, ← third]
    rfl

/-! ## The form of the text -/

/-- Bytes are written in groups of four characters. -/
theorem length_encode_mod (bytes : List UInt8) : (encode bytes).length % 4 = 0 := by
  fun_induction encode bytes with
  | case1 => rfl
  | case2 a n => simp
  | case3 a b n => simp
  | case4 a b c rest n ih =>
    simp only [List.length_cons]
    omega

/-- Bytes are written in the alphabet, but for at most two equals signs at the end. -/
theorem exists_encode_eq (bytes : List UInt8) :
    ∃ chars filling, encode bytes = chars ++ List.replicate filling '=' ∧ filling ≤ 2 ∧
      ∀ c ∈ chars, c ∈ alphabet := by
  fun_induction encode bytes with
  | case1 => exact ⟨[], 0, rfl, by decide, nofun⟩
  | case2 a n =>
    have bound := a.toNat_lt
    refine ⟨[_, _], 2, rfl, by decide, ?_⟩
    simp only [List.forall_mem_cons]
    exact ⟨character_mem_alphabet (by omega), character_mem_alphabet (by omega), nofun⟩
  | case3 a b n =>
    have bound := a.toNat_lt
    have bound' := b.toNat_lt
    refine ⟨[_, _, _], 1, rfl, by decide, ?_⟩
    simp only [List.forall_mem_cons]
    exact ⟨character_mem_alphabet (by omega), character_mem_alphabet (by omega),
      character_mem_alphabet (by omega), nofun⟩
  | case4 a b c rest n ih =>
    have bound := a.toNat_lt
    have bound' := b.toNat_lt
    have bound'' := c.toNat_lt
    obtain ⟨chars, filling, text, few, inside⟩ := ih
    refine ⟨_ :: _ :: _ :: _ :: chars, filling, congrArg (_ :: _ :: _ :: _ :: ·) text, few, ?_⟩
    simp only [List.forall_mem_cons]
    exact ⟨character_mem_alphabet (by omega), character_mem_alphabet (by omega),
      character_mem_alphabet (by omega), character_mem_alphabet (by omega), inside⟩

end TrialRun.Text.Base64
