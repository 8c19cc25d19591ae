import Tether.Crypto.Gcm

/-!
# `Tether.Proofs.Crypto.Authenticated` — what is opened is what was sealed

Sealing splits the tag off what the cipher yields, opening puts it back. All that either needs of the
cipher is what a cipher with tags promises (`Cipher.Documented`), and AES-256-GCM keeps the promise for
every key of 32 bytes: the block cipher turns any block into 16 bytes, so the key stream is long enough
for any text, and the tag has 16 bytes.

* `Aes.Proper` — round keys as they come from a key of 32 bytes;
* `Cipher.Documented` — the promise, and `Gcm.documented_cipher`;
* `Authenticates` — what sealing and opening come to under one key;
* `authenticated` — **every key of 32 bytes does it, and every other key is refused**.
-/

namespace Tether

/-! ## Byte strings -/

namespace Bytes

/-- Combined twice with a string that is long enough, a string is itself again. -/
theorem xor_xor {a k : Bytes} (h : a.length ≤ k.length) : xor (xor a k) k = a := by
  induction a generalizing k with
  | nil => rfl
  | cons x a ih =>
    cases k with
    | nil => exact absurd h (by simp)
    | cons y k =>
      have hrest : xor (xor a k) k = a := ih (by simpa using h)
      have hfirst : x ^^^ y ^^^ y = x := by
        rw [UInt8.xor_assoc, UInt8.xor_self, UInt8.xor_zero]
      simp only [xor, List.zipWith_cons_cons] at hrest ⊢
      rw [hrest, hfirst]

/-- A string of `n` whole pieces is cut into `n` pieces. -/
theorem pieces_go_of_length {width : Nat} (hwidth : 0 < width) :
    ∀ (fuel n : Nat) (bs : Bytes), bs.length ≤ fuel → bs.length = width * n →
      (pieces.go width fuel bs).length = n ∧ ∀ p ∈ pieces.go width fuel bs, p.length = width
  | 0, n, bs, hfuel, hlength => by
    have hn : n = 0 := by
      have : width * n = 0 := by omega
      exact (Nat.mul_eq_zero.mp this).resolve_left (Nat.ne_of_gt hwidth)
    simp [pieces.go, hn]
  | fuel + 1, 0, bs, _, hlength => by
    obtain rfl : bs = [] := List.eq_nil_of_length_eq_zero (by simpa using hlength)
    simp [pieces.go]
  | fuel + 1, n + 1, bs, hfuel, hlength => by
    have hle : width ≤ bs.length := by rw [hlength, Nat.mul_succ]; omega
    have hne : bs.isEmpty = false := by
      rw [List.isEmpty_eq_false_iff]
      rintro rfl
      exact absurd hle (by simpa using Nat.ne_of_gt hwidth)
    have hdrop : (bs.drop width).length = width * n := by
      rw [List.length_drop, hlength, Nat.mul_succ]; omega
    -- a piece is cut off, which uses up fuel and string alike
    have hrest := pieces_go_of_length hwidth fuel n (bs.drop width)
      (by rw [List.length_drop]; omega) hdrop
    rw [pieces.go, hne]
    refine ⟨by simp [hrest.1], fun p hp => ?_⟩
    rcases List.mem_cons.mp hp with rfl | hp
    · rw [List.length_take]; omega
    · exact hrest.2 p hp

/-- A text of `n` widths falls into `n` pieces of one width. -/
theorem pieces_of_length {width n : Nat} {bs : Bytes} (hwidth : 0 < width)
    (h : bs.length = width * n) :
    (pieces width bs).length = n ∧ ∀ p ∈ pieces width bs, p.length = width :=
  pieces_go_of_length hwidth _ n bs (Nat.le_refl _) h

end Bytes

namespace Crypto

/-! ## The block cipher -/

namespace Aes

/-- Round keys that leave no byte of a block out. -/
structure Proper (keys : List Bytes) : Prop where
  two_le : 2 ≤ keys.length
  length : ∀ key ∈ keys, key.length = 16

@[simp] theorem length_shiftRows (block : Bytes) : (shiftRows block).length = 16 := by
  simp [shiftRows, rowSources]

@[simp] theorem length_mixColumns (block : Bytes) : (mixColumns block).length = block.length := by
  fun_induction mixColumns block with
  | case1 a b c d rest all ih => simp [ih]
  | case2 rest => rfl

theorem length_lastRound {key : Bytes} (h : key.length = 16) (block : Bytes) :
    (lastRound block key).length = 16 := by
  simp [lastRound, h]

/-- All rounds together make a block of 16 bytes, if the keys have that length. -/
theorem length_rounds {block : Bytes} {keys : List Bytes} (hne : keys ≠ [])
    (h : ∀ key ∈ keys, key.length = 16) : (rounds block keys).length = 16 := by
  fun_induction rounds block keys with
  | case1 => exact absurd rfl hne
  | case2 block key => exact length_lastRound (h key List.mem_cons_self) block
  | case3 block key rest hrest ih =>
    exact ih (fun hnil => hrest hnil) fun k hk => h k (List.mem_cons_of_mem _ hk)

/-- **Any block becomes one of 16 bytes.** -/
theorem Proper.length_encryptWith {keys : List Bytes} (h : Proper keys) (block : Bytes) :
    (encryptWith keys block).length = 16 := by
  obtain ⟨htwo, hlength⟩ := h
  -- one key alone would leave a short block short; the rounds do not
  match keys with
  | [] | [_] => exact absurd htwo (by simp)
  | key :: key' :: rest =>
    exact length_rounds (List.cons_ne_nil _ _) fun k hk => hlength k (List.mem_cons_of_mem _ hk)

/-- Words of 4 bytes, as many as a key of 32 bytes has or more. -/
structure Words (words : Array Bytes) : Prop where
  eight_le : 8 ≤ words.size
  length : ∀ word ∈ words, word.length = 4

theorem length_scramble {word : Bytes} (h : word.length = 4) (index : Nat) (constant : UInt8) :
    (scramble index constant word).length = 4 := by
  unfold scramble
  split
  · match word with
    | [] => exact h
    | a :: rest =>
      have hrest : rest.length = 3 := by simpa using h
      simp [hrest]
  · split
    · simpa using h
    · exact h

theorem Words.length_getD {words : Array Bytes} (h : Words words) {i : Nat} (hi : i < words.size) :
    (words.getD i []).length = 4 := by
  rw [Array.getD_eq_getD_getElem?, Array.getElem?_eq_getElem hi]
  exact h.length _ (Array.getElem_mem hi)

/-- Every word that is added has 4 bytes, since the two it is made of have. -/
theorem words_extend (n : Nat) : ∀ (constant : UInt8) (words : Array Bytes), Words words →
    Words (extend n constant words) ∧ (extend n constant words).size = words.size + n := by
  induction n with
  | zero => intro constant words h; exact ⟨h, rfl⟩
  | succ n ih =>
    intro constant words h
    -- both words that the new one is made of are there
    have hback : (words.getD (words.size - 8) []).length = 4 :=
      h.length_getD (by have := h.eight_le; omega)
    have hlast : (words.getD (words.size - 1) []).length = 4 :=
      h.length_getD (by have := h.eight_le; omega)
    have hpush : Words (words.push (Bytes.xor (words.getD (words.size - 8) [])
        (scramble words.size constant (words.getD (words.size - 1) [])))) := by
      refine ⟨by rw [Array.size_push]; exact Nat.le_succ_of_le h.eight_le, fun word hword => ?_⟩
      rcases Array.mem_push.mp hword with hword | rfl
      · exact h.length word hword
      · rw [Bytes.length_xor, hback, length_scramble hlast]; rfl
    obtain ⟨hwords, hsize⟩ := ih (if words.size % 8 = 0 then double constant else constant) _ hpush
    rw [extend]
    refine ⟨hwords, hsize.trans ?_⟩
    rw [Array.size_push]
    omega

theorem length_flatten_of_forall {words : List Bytes} {n : Nat} (h : ∀ word ∈ words, word.length = n) :
    words.flatten.length = n * words.length := by
  induction words with
  | nil => rfl
  | cons word words ih =>
    have hrest := ih fun w hw => h w (List.mem_cons_of_mem _ hw)
    rw [List.flatten_cons, List.length_append, hrest, h word List.mem_cons_self, List.length_cons,
      Nat.mul_succ, Nat.add_comm]

/-- **The round keys of a key of 32 bytes are fifteen, of 16 bytes each.** -/
theorem proper_roundKeys {key : Bytes} (h : key.length = aeadKeySize) : Proper (roundKeys key) := by
  have hkey : (Bytes.pieces 4 key).length = 8 ∧ ∀ word ∈ Bytes.pieces 4 key, word.length = 4 :=
    Bytes.pieces_of_length (by decide) h
  have hwords : Words (Bytes.pieces 4 key).toArray :=
    ⟨by simp [hkey.1], fun word hword => hkey.2 word (by simpa using hword)⟩
  obtain ⟨hall, hsize⟩ := words_extend 52 1 _ hwords
  have hflat : (extend 52 1 (Bytes.pieces 4 key).toArray).toList.flatten.length = 16 * 15 := by
    rw [length_flatten_of_forall fun word hword => hall.length word (by simpa using hword),
      Array.length_toList, hsize]
    simp [hkey.1]
  have hpieces := Bytes.pieces_of_length (by decide) hflat
  exact ⟨by rw [roundKeys, hpieces.1]; decide, hpieces.2⟩

end Aes

/-! ## The promise of a cipher -/

/-- A text is neither too long for the cipher, nor is what is associated with it. -/
def Fits (limit : Nat) (bs associated : Bytes) : Prop :=
  bs.length ≤ limit ∧ associated.length ≤ Gcm.maxLength

/-- What a cipher promises: a text within the limits is hidden behind as many bytes, followed by a tag
    of 16 bytes for IV, associated data and ciphertext; opening accepts the tag it would have put there,
    no other, and takes the text out again. -/
structure Cipher.Documented (c : Cipher) (hide reveal : (iv bs : Bytes) → Bytes)
    (tag : (iv associated ciphertext : Bytes) → Bytes) : Prop where
  length_hide : ∀ iv bs, (hide iv bs).length = bs.length
  reveal_hide : ∀ iv bs, reveal iv (hide iv bs) = bs
  hide_reveal : ∀ iv bs, hide iv (reveal iv bs) = bs
  length_tag : ∀ iv associated ciphertext, (tag iv associated ciphertext).length = aeadTagSize
  encrypt : ∀ iv plaintext associated, Fits Gcm.maxLength plaintext associated →
    c.encrypt iv plaintext associated =
      some (hide iv plaintext ++ tag iv associated (hide iv plaintext))
  encrypt_none : ∀ iv plaintext associated, ¬ Fits Gcm.maxLength plaintext associated →
    c.encrypt iv plaintext associated = none
  decrypt : ∀ iv ciphertext t associated, t.length = aeadTagSize →
    Fits (Gcm.maxLength + aeadTagSize) ciphertext associated →
    c.decrypt iv (ciphertext ++ t) associated =
      if tag iv associated ciphertext = t then some (reveal iv ciphertext) else none
  decrypt_none : ∀ iv ciphertext t associated, t.length = aeadTagSize →
    ¬ Fits (Gcm.maxLength + aeadTagSize) ciphertext associated →
    c.decrypt iv (ciphertext ++ t) associated = none

namespace Gcm

variable {keys : List Bytes}

/-- Every block of the key stream has 16 bytes. -/
theorem length_keyStream (h : Aes.Proper keys) (iv : Bytes) (n : Nat) :
    ∀ counter, (keyStream keys iv n counter).length = 16 * n := by
  induction n with
  | zero => intro counter; rfl
  | succ n ih =>
    intro counter
    rw [keyStream, List.length_append, h.length_encryptWith, ih]
    omega

/-- The key stream covers a text of any length, its last and partial block included. -/
theorem length_le_keyStream (h : Aes.Proper keys) (iv bs : Bytes) :
    bs.length ≤ (keyStream keys iv ((bs.length + 15) / 16) 2).length := by
  rw [length_keyStream h]
  omega

/-- A stream cipher keeps the length of what it hides. -/
theorem length_stream (h : Aes.Proper keys) (iv bs : Bytes) :
    (stream keys iv bs).length = bs.length := by
  rw [stream, Bytes.length_xor]
  exact Nat.min_eq_left (length_le_keyStream h iv bs)

/-- **The key stream taken away is the key stream added again.** -/
theorem stream_stream (h : Aes.Proper keys) (iv bs : Bytes) :
    stream keys iv (stream keys iv bs) = bs := by
  have hlength := length_stream h iv bs
  rw [stream, hlength, stream]
  exact Bytes.xor_xor (length_le_keyStream h iv bs)

/-- A tag has 16 bytes. -/
theorem length_tag (h : Aes.Proper keys) (iv associated ciphertext : Bytes) :
    (tag keys iv associated ciphertext).length = aeadTagSize := by
  simp [tag, h.length_encryptWith, aeadTagSize]

/-- **AES-256-GCM keeps the promise.** -/
theorem documented_cipher {key : Bytes} (h : key.length = aeadKeySize) :
    (cipher key).Documented (stream (Aes.roundKeys key)) (stream (Aes.roundKeys key))
      (tag (Aes.roundKeys key)) := by
  have hproper := Aes.proper_roundKeys h
  have hsplit : ∀ ciphertext t : Bytes, t.length = aeadTagSize →
      (ciphertext ++ t).length - aeadTagSize = ciphertext.length := by
    intro ciphertext t ht
    rw [List.length_append, ht, Nat.add_sub_cancel]
  have henough : ∀ ciphertext t : Bytes, t.length = aeadTagSize →
      ¬ (ciphertext ++ t).length < aeadTagSize := by
    intro ciphertext t ht
    rw [List.length_append, ht]
    omega
  constructor
  case length_hide => exact length_stream hproper
  case reveal_hide => exact stream_stream hproper
  case hide_reveal => exact stream_stream hproper
  case length_tag => exact length_tag hproper
  case encrypt =>
    rintro iv plaintext associated ⟨hp, ha⟩
    have hlimits : ¬ (maxLength < plaintext.length ∨ maxLength < associated.length) := by omega
    simp only [cipher, encrypt, if_neg hlimits]
  case encrypt_none =>
    intro iv plaintext associated hfits
    have hlimits : maxLength < plaintext.length ∨ maxLength < associated.length := by
      unfold Fits at hfits; omega
    simp only [cipher, encrypt, if_pos hlimits]
  case decrypt =>
    rintro iv ciphertext t associated ht ⟨hc, ha⟩
    have hlimits : ¬ (maxLength + aeadTagSize < ciphertext.length ∨ maxLength < associated.length) := by
      omega
    simp only [cipher, decrypt, if_neg (henough _ _ ht), hsplit _ _ ht, List.take_left,
      List.drop_left, if_neg hlimits]
  case decrypt_none =>
    intro iv ciphertext t associated ht hfits
    have hlimits : maxLength + aeadTagSize < ciphertext.length ∨ maxLength < associated.length := by
      unfold Fits at hfits; omega
    simp only [cipher, decrypt, if_neg (henough _ _ ht), hsplit _ _ ht, List.take_left,
      if_pos hlimits]

end Gcm

/-! ## Sealing and opening -/

namespace Cipher

variable {c : Cipher} {hide reveal : Bytes → Bytes → Bytes} {tag : Bytes → Bytes → Bytes → Bytes}

/-- The tag is split off where the ciphertext ends. -/
theorem Documented.sealWith_eq (h : c.Documented hide reveal tag) {plaintext associated : Bytes}
    (hfits : Fits Gcm.maxLength plaintext associated) (iv : Bytes) :
    c.sealWith iv plaintext associated =
      .ok ⟨hide iv plaintext, iv, tag iv associated (hide iv plaintext)⟩ := by
  have hsplit : (hide iv plaintext ++ tag iv associated (hide iv plaintext)).length - aeadTagSize =
      (hide iv plaintext).length := by
    rw [List.length_append, h.length_tag, Nat.add_sub_cancel]
  rw [sealWith, h.encrypt iv plaintext associated hfits]
  dsimp only
  rw [hsplit, List.take_left, List.drop_left]

/-- A payload is opened exactly with the tag that the cipher would have put on it. -/
theorem Documented.openWith_eq (h : c.Documented hide reveal tag) {s : Sealed} {associated : Bytes}
    (htag : s.tag.length = aeadTagSize)
    (hfits : Fits (Gcm.maxLength + aeadTagSize) s.ciphertext associated) :
    c.openWith s associated =
      if tag s.iv associated s.ciphertext = s.tag then .ok (reveal s.iv s.ciphertext)
      else .error .authenticationFailed := by
  rw [openWith, h.decrypt s.iv s.ciphertext s.tag associated htag hfits]
  by_cases heq : tag s.iv associated s.ciphertext = s.tag
  · rw [if_pos heq, if_pos heq]
  · rw [if_neg heq, if_neg heq]

end Cipher

/-- What sealing and opening come to under one key. -/
structure Authenticates (key : Bytes) : Prop where
  /-- What is sealed is as long as the plaintext and carries the IV and a tag of 16 bytes; it opens to
      the plaintext, and with no other tag. -/
  opens : ∀ iv plaintext associated, Fits Gcm.maxLength plaintext associated →
    ∃ s, sealWith key iv plaintext associated = .ok s ∧ s.ciphertext.length = plaintext.length ∧
      s.iv = iv ∧ s.tag.length = aeadTagSize ∧ openWith key s associated = .ok plaintext ∧
      ∀ t, t.length = aeadTagSize → t ≠ s.tag →
        openWith key { s with tag := t } associated = .error .authenticationFailed
  /-- Exactly one tag opens a ciphertext, wherever it comes from. -/
  one_tag : ∀ iv ciphertext associated, Fits (Gcm.maxLength + aeadTagSize) ciphertext associated →
    ∃ t, t.length = aeadTagSize ∧
      (∃ plaintext, openWith key ⟨ciphertext, iv, t⟩ associated = .ok plaintext) ∧
      ∀ t', t'.length = aeadTagSize → t' ≠ t →
        openWith key ⟨ciphertext, iv, t'⟩ associated = .error .authenticationFailed
  /-- What opens is what sealing its plaintext yields. -/
  genuine : ∀ s plaintext associated, s.tag.length = aeadTagSize →
    s.ciphertext.length ≤ Gcm.maxLength → openWith key s associated = .ok plaintext →
    sealWith key s.iv plaintext associated = .ok s
  /-- Beyond the limits nothing is sealed, -/
  too_long : ∀ iv plaintext associated, ¬ Fits Gcm.maxLength plaintext associated →
    sealWith key iv plaintext associated = .error (.encryptionFailed "aead::Error")
  /-- and nothing is opened. -/
  never_opens : ∀ s associated, s.tag.length = aeadTagSize →
    ¬ Fits (Gcm.maxLength + aeadTagSize) s.ciphertext associated →
    openWith key s associated = .error .authenticationFailed

/-- A key that is refused before any cipher is made of it, whatever is to be sealed or opened. -/
structure Refuses (key : Bytes) (f : AeadFault) : Prop where
  cipher : ∀ make, Cipher.ofKey make key = .error f
  seals : ∀ iv plaintext associated, sealWith key iv plaintext associated = .error f
  opens : ∀ s associated, openWith key s associated = .error f

variable {key : Bytes}

theorem ofKey_of_length (make : Bytes → Cipher) (h : key.length = aeadKeySize) :
    Cipher.ofKey make key = .ok (make key) := if_pos h

/-- A key of 32 bytes seals as its cipher does. -/
theorem sealWith_of_length (h : key.length = aeadKeySize) (iv plaintext associated : Bytes) :
    sealWith key iv plaintext associated = (Gcm.cipher key).sealWith iv plaintext associated := by
  rw [sealWith, ofKey_of_length _ h]

/-- A key of 32 bytes opens as its cipher does. -/
theorem openWith_of_length (h : key.length = aeadKeySize) (s : Sealed) (associated : Bytes) :
    openWith key s associated = (Gcm.cipher key).openWith s associated := by
  rw [openWith, ofKey_of_length _ h]

/-- A cipher that keeps its promise is all it takes. -/
theorem authenticates_of_documented {hide reveal : Bytes → Bytes → Bytes}
    {tag : Bytes → Bytes → Bytes → Bytes} (hkey : key.length = aeadKeySize)
    (h : (Gcm.cipher key).Documented hide reveal tag) : Authenticates key := by
  have hseal := sealWith_of_length hkey
  have hopen := openWith_of_length hkey
  constructor
  case opens =>
    intro iv plaintext associated hfits
    have hfits' : Fits (Gcm.maxLength + aeadTagSize) (hide iv plaintext) associated := by
      refine ⟨?_, hfits.2⟩
      rw [h.length_hide]
      exact Nat.le_add_right_of_le hfits.1
    refine ⟨⟨hide iv plaintext, iv, tag iv associated (hide iv plaintext)⟩, ?_, h.length_hide ..,
      rfl, h.length_tag .., ?_, ?_⟩
    · rw [hseal, h.sealWith_eq hfits]
    · rw [hopen, h.openWith_eq (h.length_tag ..) hfits', if_pos rfl, h.reveal_hide]
    · intro t ht hne
      rw [hopen, h.openWith_eq ht hfits', if_neg hne.symm]
  case one_tag =>
    intro iv ciphertext associated hfits
    refine ⟨tag iv associated ciphertext, h.length_tag .., ⟨reveal iv ciphertext, ?_⟩, ?_⟩
    · rw [hopen, h.openWith_eq (h.length_tag ..) hfits, if_pos rfl]
    · intro t ht hne
      rw [hopen, h.openWith_eq ht hfits, if_neg hne.symm]
  case genuine =>
    intro s plaintext associated htag hlength hplain
    by_cases ha : associated.length ≤ Gcm.maxLength
    · rw [hopen, h.openWith_eq htag ⟨Nat.le_add_right_of_le hlength, ha⟩] at hplain
      by_cases heq : tag s.iv associated s.ciphertext = s.tag
      · rw [if_pos heq] at hplain
        obtain rfl := Except.ok.inj hplain
        have hlength' : (reveal s.iv s.ciphertext).length ≤ Gcm.maxLength := by
          rw [← h.length_hide s.iv, h.hide_reveal]
          exact hlength
        rw [hseal, h.sealWith_eq ⟨hlength', ha⟩, h.hide_reveal, heq]
      · rw [if_neg heq] at hplain
        cases hplain
    · -- associated data that is too long opens nothing
      rw [hopen, Cipher.openWith, h.decrypt_none _ _ _ _ htag fun hfits => ha hfits.2] at hplain
      cases hplain
  case too_long =>
    intro iv plaintext associated hfits
    rw [hseal, Cipher.sealWith, h.encrypt_none iv plaintext associated hfits]
  case never_opens =>
    intro s associated htag hfits
    rw [hopen, Cipher.openWith, h.decrypt_none s.iv s.ciphertext s.tag associated htag hfits]

/-- A key of any other length is refused, and the refusal names the length. -/
theorem refuses_of_length (h : key.length ≠ aeadKeySize) :
    Refuses key (.invalidKey ("Key must be 32 bytes, got " ++ toString key.length)) := by
  have hcipher : ∀ make, Cipher.ofKey make key =
      .error (.invalidKey ("Key must be 32 bytes, got " ++ toString key.length)) :=
    fun make => if_neg h
  exact ⟨hcipher, fun _ _ _ => by rw [sealWith, hcipher], fun _ _ => by rw [openWith, hcipher]⟩

/-- **Under a key of 32 bytes, what is opened is exactly what was sealed. Any other key is refused**, in
    both directions and before any cipher runs. -/
theorem authenticated (key : Bytes) :
    (key.length = aeadKeySize → Authenticates key) ∧
      (key.length ≠ aeadKeySize →
        Refuses key (.invalidKey ("Key must be 32 bytes, got " ++ toString key.length))) :=
  ⟨fun h => authenticates_of_documented h (Gcm.documented_cipher h), refuses_of_length⟩

/-- A key of zeros, and one that is too short. -/
theorem authenticated_zeros :
    (∃ s, sealWith (List.replicate 32 0) (List.replicate 12 0) [1, 2, 3] [4] = .ok s ∧
        openWith (List.replicate 32 0) s [4] = .ok [1, 2, 3]) ∧
      openWith [1, 2, 3] ⟨[], [], []⟩ [] = .error (.invalidKey "Key must be 32 bytes, got 3") := by
  refine ⟨?_, ((authenticated [1, 2, 3]).2 (by decide)).opens _ _⟩
  have hkey := (authenticated (List.replicate 32 0)).1 (by decide)
  obtain ⟨s, hseal, -, -, -, hopen, -⟩ :=
    hkey.opens (List.replicate 12 0) [1, 2, 3] [4] (by unfold Fits; decide)
  exact ⟨s, hseal, hopen⟩

end Crypto
end Tether
