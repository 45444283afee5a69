import MailConnection.Proofs.Account.Storage
import MailConnection.Proofs.ConnectionString.Canonical

/-!
# Schemes as a code for flag words

A flag word goes into a scheme as a suffix and comes out of one as two tokens.  Writing looks
up the user's bits in one table, reading looks up each token in another, and nothing but the
laws of this file holds the two together.

* What is written is read: the protocol always, and the user's bits if they ask for exactly one
  of SSL and TLS (`protocol_ofWord`, `word_ofWord`).  This holds of any whole number as the
  word, negative ones in two's complement.
* Reading looks at the second and third segment only (`mode_eq_of_segments`), and what it finds
  is never both SSL and TLS and never authentication (`SecurityMode.testBit_word`).
* A scheme that is read and written again is settled after the first time
  (`rewritten_rewritten`).  Trust in all certificates is lost where it stands alone.
-/

namespace MailConnection

/-! ## Words and modes -/

/-- The bits of a mode, at their places in a word. -/
def SecurityMode.bit (mode : SecurityMode) : Nat → Bool
  | 0 => mode.ssl
  | 1 => mode.tls
  | 3 => mode.trustAll
  | _ => false

/-- The word of a mode has the bits of the mode and no others. -/
theorem SecurityMode.testBit_word (mode : SecurityMode) (i : Nat) :
    mode.word.testBit i = mode.bit i := by
  have hword : mode.word = (Flags.mk mode false 0).word := by simp [Flags.word]
  rw [hword, Flags.testBit_word]
  rcases i with _ | _ | _ | _ | n
  · rfl
  · rfl
  · rfl
  · rfl
  · exact Nat.zero_testBit n

/-- The mask has no bit that a natural number could not have. -/
theorem land_userMask_nonneg (n : Int) : 0 ≤ Int.land n userMask := by
  cases n with
  | ofNat n => exact Int.natCast_nonneg _
  | negSucc n => exact Int.natCast_nonneg _

/-- The mode that is taken from a whole number is what the mask leaves of the number. -/
theorem SecurityMode.word_ofInt (n : Int) : ((ofInt n).word : Int) = Int.land n userMask := by
  refine natCast_eq_of_testBit (land_userMask_nonneg n) fun i => ?_
  rw [testBit_word, ofInt_eq, Int.testBit_land, testBit_userMask]
  match i with
  | 0 | 1 | 2 | 3 => simp [bit]
  | n + 4 => simp [bit]

theorem SecurityMode.word_injective {mode other : SecurityMode} (h : mode.word = other.word) :
    mode = other := by
  rw [← ofInt_word mode, h, ofInt_word]

/-- Of SSL and TLS, a word asks for exactly one. -/
def HasOneProtection (word : Int) : Prop := word.testBit 0 ≠ word.testBit 1

instance (word : Int) : Decidable (HasOneProtection word) :=
  inferInstanceAs (Decidable (_ ≠ _))

namespace Scheme

/-! ## Writing and reading words -/

/-- The scheme for a protocol and a flag word, of which only the user's bits count. -/
def ofWord (protocol : String) (word : Int) : String := encode protocol (SecurityMode.ofInt word)

/-- The flag word that a scheme names. -/
def word (scheme : String) : Int := (mode scheme).word

theorem protocol_ofWord {p : String} (hp : '+' ∉ p.toList) (given : Int) :
    protocol (ofWord p given) = p :=
  protocol_encode hp (SecurityMode.ofInt given)

/-- **What is written of a word is read** if it asks for exactly one of SSL and TLS. -/
theorem word_ofWord {p : String} (hp : '+' ∉ p.toList) (given : Int) :
    word (ofWord p given) =
      if HasOneProtection (Int.land given userMask) then Int.land given userMask else 0 := by
  have hmode : mode (ofWord p given) = normalMode (SecurityMode.ofInt given) :=
    mode_encode hp (SecurityMode.ofInt given)
  have hprotection : HasOneProtection (Int.land given userMask) ↔
      (SecurityMode.ofInt given).ssl ≠ (SecurityMode.ofInt given).tls := by
    rw [HasOneProtection, Int.testBit_land, Int.testBit_land, SecurityMode.ofInt_eq,
      testBit_userMask, testBit_userMask]
    simp
  rw [word, hmode, normalMode]
  by_cases hsame : (SecurityMode.ofInt given).ssl = (SecurityMode.ofInt given).tls
  · rw [if_pos hsame, if_neg fun h => hprotection.mp h hsame]
    rfl
  · rw [if_neg hsame, if_pos (hprotection.mpr hsame), SecurityMode.word_ofInt]

/-! ## The tokens -/

theorem securityToken?_eq (scheme : String) :
    securityToken? scheme = ((Text.segments '+' scheme.toList)[1]?).map String.ofList := by
  rw [securityToken?, Text.segments_eq]
  cases Text.after? '+' scheme.toList with
  | none => rfl
  | some rest => simp [Text.segments_eq '+' rest]

theorem certificateToken?_eq (scheme : String) :
    certificateToken? scheme = ((Text.segments '+' scheme.toList)[2]?).map String.ofList := by
  rw [certificateToken?, Text.segments_eq]
  cases Text.after? '+' scheme.toList with
  | none => rfl
  | some rest =>
    rw [Option.map_some, Option.getD_some, Text.segments_eq '+' rest]
    cases hrest : Text.after? '+' rest with
    | none => simp [hrest]
    | some last => simp [hrest, Text.segments_eq '+' last]

/-- **Reading looks at two segments,** and not at the protocol or at what comes later. -/
theorem mode_eq_of_segments {s t : String}
    (hsecurity : (Text.segments '+' s.toList)[1]? = (Text.segments '+' t.toList)[1]?)
    (hcertificate : (Text.segments '+' s.toList)[2]? = (Text.segments '+' t.toList)[2]?) :
    mode s = mode t := by
  simp only [mode, securityToken?_eq, certificateToken?_eq, hsecurity, hcertificate]

/-! ## Writing what was read -/

/-- A scheme that was read and is written again. -/
def rewritten (scheme : String) : String := ofWord (protocol scheme) (word scheme)

theorem rewritten_eq (scheme : String) :
    rewritten scheme = encode (protocol scheme) (mode scheme) := by
  rw [rewritten, ofWord, word, SecurityMode.ofInt_word]

theorem mode_rewritten (scheme : String) :
    mode (rewritten scheme) =
      if mode scheme = ⟨false, false, true⟩ then SecurityMode.none else mode scheme := by
  rw [rewritten_eq, mode_encode (plus_not_mem_protocol scheme),
    normalMode_of_not_both (not_ssl_and_tls scheme)]

/-- **Writing settles a scheme at once.**  The mode that is lost had no suffix either. -/
theorem rewritten_rewritten (scheme : String) :
    rewritten (rewritten scheme) = rewritten scheme := by
  have hplus := plus_not_mem_protocol scheme
  calc rewritten (rewritten scheme)
      = encode (protocol scheme) (normalMode (mode scheme)) := by
        rw [rewritten_eq, rewritten_eq, protocol_encode hplus, mode_encode hplus]
    _ = rewritten scheme := by rw [encode_normalMode, rewritten_eq]

/-- The word of trust in all certificates, and of nothing else. -/
def trustAloneWord : Int := 8

theorem word_rewritten (scheme : String) :
    word (rewritten scheme) = if word scheme = trustAloneWord then 0 else word scheme := by
  have halone : word scheme = trustAloneWord ↔ mode scheme = ⟨false, false, true⟩ :=
    ⟨fun h => SecurityMode.word_injective (Int.ofNat.inj h), fun h => by rw [word, h]; rfl⟩
  rw [word, mode_rewritten]
  simp only [halone]
  split
  · rfl
  · rfl

/-! ## The laws -/

/-- **The laws of the code.**  Bit 0 is that of SSL, bit 1 that of TLS, and bit 2 that of
authentication.

* The protocol survives, and of the word what the mask leaves, if it has one of bits 0 and 1.
* No scheme names bits 0 and 1 together, or bit 2, or a bit above the named ones.
* Schemes with the same second and third segment name the same word.
* A scheme is the same after it was written a second time, and it names the same word as before
  the first time, but for trust in all certificates alone. -/
theorem protocol_and_word_survive :
    (∀ (p : String) (given : Int), '+' ∉ p.toList →
      protocol (ofWord p given) = p ∧
      word (ofWord p given) =
        if HasOneProtection (Int.land given userMask) then Int.land given userMask else 0) ∧
    (∀ s : String, ¬ ((word s).testBit 0 = true ∧ (word s).testBit 1 = true) ∧
      (word s).testBit 2 = false ∧ ∀ i, 4 ≤ i → (word s).testBit i = false) ∧
    (∀ s t : String,
      (Text.segments '+' s.toList)[1]? = (Text.segments '+' t.toList)[1]? →
      (Text.segments '+' s.toList)[2]? = (Text.segments '+' t.toList)[2]? → word s = word t) ∧
    ∀ s : String, rewritten (rewritten s) = rewritten s ∧
      word (rewritten s) = if word s = trustAloneWord then 0 else word s := by
  have hbit (s : String) (i : Nat) : (word s).testBit i = (mode s).word.testBit i := rfl
  refine ⟨?written, ?bits, ?segments, fun s => ⟨rewritten_rewritten s, word_rewritten s⟩⟩
  case written =>
    intro p given hp
    exact ⟨protocol_ofWord hp given, word_ofWord hp given⟩
  case bits =>
    intro s
    refine ⟨?_, ?_, ?_⟩
    · rw [hbit, hbit, SecurityMode.testBit_word, SecurityMode.testBit_word]
      exact not_ssl_and_tls s
    · exact SecurityMode.testBit_word (mode s) 2
    · intro i hi
      obtain ⟨n, rfl⟩ := Nat.exists_eq_add_of_le' hi
      exact SecurityMode.testBit_word (mode s) (n + 4)
  case segments =>
    intro s t hsecurity hcertificate
    rw [word, word, mode_eq_of_segments hsecurity hcertificate]

/-- A negative word with unnamed bits, and schemes that differ in the protocol and in what
follows the tokens. -/
theorem protocol_and_word_survive_negative :
    ('+' ∉ "imap".toList ∧ protocol (ofWord "imap" (-22)) = "imap" ∧
      word (ofWord "imap" (-22)) =
        if HasOneProtection (Int.land (-22) userMask) then Int.land (-22) userMask else 0) ∧
    Int.land (-22) userMask = 10 ∧ ofWord "imap" (-22) = "imap+tls+trustallcerts" ∧
    ((Text.segments '+' "imap+ssl+x".toList)[1]? = (Text.segments '+' "+ssl+x+y".toList)[1]? ∧
      (Text.segments '+' "imap+ssl+x".toList)[2]? = (Text.segments '+' "+ssl+x+y".toList)[2]? ∧
      word "imap+ssl+x" = word "+ssl+x+y") ∧
    rewritten "imap+SSL+trustallcerts+" = "imap" := by
  obtain ⟨hwritten, -, hsegments, -⟩ := protocol_and_word_survive
  have hplus : '+' ∉ "imap".toList := by decide
  have hmask : Int.land (-22) userMask = 10 := (SecurityMode.word_ofInt (-22)).symm.trans rfl
  exact ⟨⟨hplus, hwritten "imap" (-22) hplus⟩, hmask, rfl,
    ⟨rfl, rfl, hsegments "imap+ssl+x" "+ssl+x+y" rfl rfl⟩, rfl⟩

end Scheme

end MailConnection
