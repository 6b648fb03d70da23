import YourCloud.Assistant.KeyArmour
import YourCloud.Assistant.KeyFields

/-!
# Which key files are accepted

A personal key file that may be opened is described here by what is in it: a
document of the one supported shape, written out as a row of fields, and the text
whose lines carry it.  The reader accepts a file exactly where there is such a
document.

The integers of an RSA key are read as numbers without a sign.  What the SSH wire
format asks of them besides, that a first byte says the sign and that no byte is
one too many, is not asked here, and nothing is asked of the exponent.

## Main results

* `validate_exact` — the reader takes the files that carry a document, the decoder
  the one spelling of each byte string, and no read leaves its buffer.
* `carries_file` — a document that is small enough has such a file.
-/

namespace YourCloud.Assistant.OpensshKey

open YourCloud.Foundation

/-! ## What a file may hold -/

/-- The public part of a personal key. -/
inductive PublicPart where
  | ed25519 (point : Bytes) (whole : point.length = ED25519_POINT_BYTES)
  | rsa (exponent modulus : Bytes)
      (large : MIN_RSA_MODULUS_BITS ≤ Nat.size (fromBigEndian modulus))

namespace PublicPart

def write : PublicPart → Bytes
  | ed25519 point _ => writeField (text "ssh-ed25519") ++ writeField point
  | rsa exponent modulus _ =>
      writeField (text "ssh-rsa") ++ (writeField exponent ++ writeField modulus)

/-- The type of the key, and the bits of an RSA modulus. -/
def identity : PublicPart → IdentityKeyType × Option Nat
  | ed25519 _ _ => (.ed25519, none)
  | rsa _ modulus _ => (.rsa, some (Nat.size (fromBigEndian modulus)))

end PublicPart

/-- One key behind the required cipher and derivation. -/
structure Document where
  salt : Bytes
  salted : salt ≠ [] ∧ salt.length ≤ MAX_SALT_BYTES
  rounds : Nat
  bounded : rounds ≠ 0 ∧ rounds ≤ MAX_BCRYPT_ROUNDS
  publicPart : PublicPart
  encrypted : Bytes
  aligned : encrypted ≠ [] ∧ encrypted.length % CIPHER_BLOCK_BYTES = 0

namespace Document

/-- The fields of a document, behind the fixed start of each. -/
def fields (d : Document) : Bytes :=
  writeField REQUIRED_CIPHER ++ (writeField REQUIRED_KDF ++
    (writeField (writeField d.salt ++ bigEndian 4 d.rounds) ++ (bigEndian 4 1 ++
      (writeField d.publicPart.write ++ writeField d.encrypted))))

def write (d : Document) : Bytes := AUTH_MAGIC ++ d.fields

/-- What the envelope of a document declares. -/
def envelope (d : Document) : ValidatedEnvelope where
  keyType := d.publicPart.identity.1
  rounds := d.rounds
  rsaModulusBits := d.publicPart.identity.2

end Document

/-- A file within the size bound that carries a document: its lines are an armour around the one
spelling of the document in base 64. -/
structure Carries (bytes : Bytes) (document : Document) : Prop where
  small : bytes.length ≤ MAX_KEY_FILE_BYTES
  armoured : ∃ file armour, Chars.bytes file = bytes ∧ Chars.lines file = Armour.lines armour ∧
    Chars.bytes armour.body = encodeStd document.write

/-! ## The nested readers -/

/-- A row that is at its end holds nothing more. -/
theorem append_rest {r : WireReader} (h : r.remaining = 0) (s : Bytes) : s ++ r.rest = s := by
  rw [WireReader.remaining_eq_zero.1 h, List.append_nil]

theorem bcryptRounds_eq_ok {options : Bytes} {rounds : Nat} (h : options.length < 2 ^ 64) :
    bcryptRounds options = .ok rounds ↔
      ∃ salt, options = writeField salt ++ bigEndian 4 rounds ∧
        (salt ≠ [] ∧ salt.length ≤ MAX_SALT_BYTES) ∧ rounds ≠ 0 ∧ rounds ≤ MAX_BCRYPT_ROUNDS := by
  unfold bcryptRounds
  simp only [bind_ok_iff, found_eq_ok, demand_eq_ok, Prod.exists, decide_eq_true_eq]
  constructor
  · rintro ⟨salt, r, hsalt, ⟨⟩, hsalted, n, r', hn, ⟨⟩, hend, ⟨⟩, hbounded, hrounds⟩
    obtain rfl : n = rounds := Except.ok.inj hrounds
    obtain ⟨-, -, -, hfirst⟩ := WireReader.readString_bounded hsalt
    obtain ⟨-, -, -, hsecond⟩ := WireReader.readU32_bounded hn
    refine ⟨salt, ?_, hsalted, hbounded⟩
    rw [WireReader.rest_new, hsecond, append_rest hend] at hfirst
    exact hfirst
  · rintro ⟨salt, rfl, hsalted, hbounded⟩
    have hsmall : salt.length < 256 ^ 4 := Nat.lt_of_le_of_lt hsalted.2 (by decide)
    have hword : rounds < 256 ^ 4 := Nat.lt_of_le_of_lt hbounded.2 (by decide)
    obtain ⟨r, hsalt, hrest, hw⟩ :=
      WireReader.readString_of_rest (WireReader.within_new h) hsmall (WireReader.rest_new _)
    obtain ⟨hn, hend, -⟩ := @WireReader.readU32_of_rest r hw rounds [] hword
      (by rw [hrest, List.append_nil])
    exact ⟨salt, r, hsalt, ⟨⟩, hsalted, rounds, _, hn, ⟨⟩, WireReader.remaining_eq_zero.2 hend, ⟨⟩,
      hbounded, rfl⟩

theorem fromPublicKeyType_eq_some {name : Chars} {keyType : IdentityKeyType} :
    IdentityKeyType.fromPublicKeyType name = some keyType ↔
      name = "ssh-ed25519".toList ∧ keyType = .ed25519 ∨
        name = "ssh-rsa".toList ∧ keyType = .rsa := by
  have hother : "ssh-ed25519".toList ≠ "ssh-rsa".toList := by decide
  unfold IdentityKeyType.fromPublicKeyType
  generalize "ssh-ed25519".toList = first at hother
  generalize "ssh-rsa".toList = second at hother
  by_cases hed : name = first
  · simp [hed, hother, eq_comm]
  · by_cases hrsa : name = second
    · simp [hrsa, hother.symm, eq_comm]
    · simp [hed, hrsa]

theorem publicIdentity_eq_ok {blob : Bytes} {identity : IdentityKeyType × Option Nat}
    (h : blob.length * 8 < 2 ^ 32) :
    publicIdentity blob = .ok identity ↔
      ∃ part : PublicPart, part.write = blob ∧ part.identity = identity := by
  unfold publicIdentity
  simp only [bind_ok_iff, found_eq_ok, Prod.exists, fromUtf8_eq_some, fromPublicKeyType_eq_some]
  constructor
  · rintro ⟨rawType, r, hraw, name, hname, keyType, hkind, hread⟩
    obtain ⟨-, -, -, htype⟩ := WireReader.readString_bounded hraw
    rw [WireReader.rest_new, ← hname] at htype
    rcases hkind with ⟨rfl, rfl⟩ | ⟨rfl, rfl⟩
    · simp only [bind_ok_iff, found_eq_ok, demand_eq_ok, Prod.exists, decide_eq_true_eq] at hread
      obtain ⟨point, r', hpoint, ⟨⟩, ⟨hwhole, hend⟩, hidentity⟩ := hread
      obtain ⟨-, -, -, hrest⟩ := WireReader.readString_bounded hpoint
      rw [hrest, append_rest hend] at htype
      exact ⟨.ed25519 point hwhole, htype.symm, Except.ok.inj hidentity⟩
    · simp only [bind_ok_iff, found_eq_ok, demand_eq_ok, Prod.exists, decide_eq_true_eq] at hread
      obtain ⟨exponent, r', hexponent, modulus, r'', hmodulus, ⟨⟩, hend, bits, hbits, ⟨⟩, hlarge,
        hidentity⟩ := hread
      obtain ⟨-, -, -, hfirst⟩ := WireReader.readString_bounded hexponent
      obtain ⟨-, -, -, hsecond⟩ := WireReader.readString_bounded hmodulus
      rw [hfirst, hsecond, append_rest hend] at htype
      have hfits : modulus.length * 8 < 2 ^ 32 := by
        have hlength := congrArg List.length htype
        simp only [writeField, List.length_append, bigEndian_length] at hlength
        omega
      rw [mpintBits_eq hfits] at hbits
      split at hbits
      · cases hbits
      · obtain rfl := Option.some.inj hbits
        exact ⟨.rsa exponent modulus hlarge, htype.symm, Except.ok.inj hidentity⟩
  · rintro ⟨part, rfl, rfl⟩
    have hbuffer : part.write.length < 2 ^ 64 := by omega
    cases part with
    | ed25519 point whole =>
        obtain ⟨r, hraw, hrest, hw⟩ := WireReader.readString_of_rest
          (WireReader.within_new hbuffer) (by decide) (WireReader.rest_new _)
        obtain ⟨r', hpoint, hend, -⟩ := @WireReader.readString_of_rest r hw point []
          (by rw [whole]; decide) (by rw [hrest, List.append_nil])
        refine ⟨_, r, hraw, "ssh-ed25519".toList, by decide, .ed25519, .inl ⟨rfl, rfl⟩, ?_⟩
        simp only [bind_ok_iff, found_eq_ok, demand_eq_ok, Prod.exists, decide_eq_true_eq]
        exact ⟨point, r', hpoint, ⟨⟩, ⟨whole, WireReader.remaining_eq_zero.2 hend⟩, rfl⟩
    | rsa exponent modulus large =>
        have hlength : (PublicPart.rsa exponent modulus large).write.length =
            19 + exponent.length + modulus.length := by
          simp only [PublicPart.write, writeField, List.length_append, bigEndian_length]
          show 4 + 7 + (4 + exponent.length + (4 + modulus.length)) = _
          omega
        have hunit : 256 ^ 4 = 2 ^ 32 := by decide
        obtain ⟨r, hraw, hrest, hw⟩ := WireReader.readString_of_rest
          (WireReader.within_new hbuffer) (by decide) (WireReader.rest_new _)
        obtain ⟨r', hexponent, hrest', hw'⟩ := WireReader.readString_of_rest hw (by omega) hrest
        obtain ⟨r'', hmodulus, hend, -⟩ := @WireReader.readString_of_rest r' hw' modulus []
          (by omega) (by rw [hrest', List.append_nil])
        have hnonzero : fromBigEndian modulus ≠ 0 := by
          intro hzero
          rw [hzero] at large
          cases large
        refine ⟨_, r, hraw, "ssh-rsa".toList, by decide, .rsa, .inr ⟨rfl, rfl⟩, ?_⟩
        simp only [bind_ok_iff, found_eq_ok, demand_eq_ok, Prod.exists, decide_eq_true_eq]
        refine ⟨exponent, r', hexponent, modulus, r'', hmodulus, ⟨⟩,
          WireReader.remaining_eq_zero.2 hend, _, ?_, ⟨⟩, large, rfl⟩
        rw [mpintBits_eq (by omega), if_neg hnonzero]

/-! ## The whole file -/

/-- What a file within the bound decodes to is small. -/
theorem decoded_length {bytes decoded : Bytes} {body : Chars}
    (hsmall : bytes.length ≤ MAX_KEY_FILE_BYTES) (hbody : pemBody bytes = some body)
    (hdecoded : decodeBase64 (Chars.bytes body) = some decoded) :
    decoded.length ≤ MAX_KEY_FILE_BYTES := by
  obtain ⟨file, armour, rfl, hlines, rfl⟩ := pemBody_eq_some.1 hbody
  have hbase := length_le_encodeStd decoded
  rw [decodeBase64_eq_some.1 hdecoded] at hbase
  exact (hbase.trans (Armour.body_length hlines)).trans hsmall

/-- The reader takes a file exactly where it carries a document, and says what that declares. -/
theorem validate_eq_ok {bytes : Bytes} {envelope : ValidatedEnvelope} :
    validate bytes = .ok envelope ↔
      ∃ document, Carries bytes document ∧ document.envelope = envelope := by
  unfold validate
  simp only [bind_ok_iff, found_eq_ok, demand_eq_ok, Prod.exists, decide_eq_true_eq]
  constructor
  · rintro ⟨⟨⟩, hsmall, body, hbody, decoded, hdecoded, ⟨⟩, hmagic, cipher, r₁, hcipher, ⟨⟩, rfl,
      kdf, r₂, hkdf, ⟨⟩, rfl, options, r₃, hoptions, rounds, hrounds, count, r₄, hcount, ⟨⟩, rfl,
      blob, r₅, hblob, keyType, bits, hidentity, encrypted, r₆, hencrypted, ⟨⟩, haligned, ⟨⟩, hend,
      henvelope⟩
    have hlength := decoded_length hsmall hbody hdecoded
    obtain ⟨start, rfl⟩ := List.isPrefixOf_iff_prefix.1 hmagic
    rw [List.drop_left] at hcipher
    obtain ⟨-, -, -, h₁⟩ := WireReader.readString_bounded hcipher
    obtain ⟨-, -, -, h₂⟩ := WireReader.readString_bounded hkdf
    obtain ⟨-, -, -, h₃⟩ := WireReader.readString_bounded hoptions
    obtain ⟨-, -, -, h₄⟩ := WireReader.readU32_bounded hcount
    obtain ⟨-, -, -, h₅⟩ := WireReader.readString_bounded hblob
    obtain ⟨-, -, -, h₆⟩ := WireReader.readString_bounded hencrypted
    rw [WireReader.rest_new, h₂, h₃, h₄, h₅, h₆, append_rest hend] at h₁
    have hfields : options.length ≤ MAX_KEY_FILE_BYTES ∧ blob.length ≤ MAX_KEY_FILE_BYTES := by
      rw [h₁] at hlength
      simp only [writeField, List.length_append] at hlength
      omega
    have hoptionsLength : options.length < 2 ^ 64 := Nat.lt_of_le_of_lt hfields.1 (by decide)
    have hblobLength : blob.length * 8 < 2 ^ 32 :=
      Nat.lt_of_le_of_lt (Nat.mul_le_mul_right 8 hfields.2) (by decide)
    obtain ⟨salt, rfl, hsalted, hbounded⟩ := (bcryptRounds_eq_ok hoptionsLength).1 hrounds
    obtain ⟨part, rfl, hpart⟩ := (publicIdentity_eq_ok hblobLength).1 hidentity
    obtain ⟨file, armour, hfile, hlines, rfl⟩ := pemBody_eq_some.1 hbody
    refine ⟨⟨salt, hsalted, rounds, hbounded, part, encrypted, haligned⟩,
      ⟨hsmall, file, armour, hfile, hlines, ?_⟩, ?_⟩
    · rw [← decodeBase64_eq_some.1 hdecoded, h₁]
      rfl
    · rw [← Except.ok.inj henvelope, Document.envelope, hpart]
  · rintro ⟨document, ⟨hsmall, file, armour, rfl, hlines, hbody⟩, rfl⟩
    have hpem : pemBody (Chars.bytes file) = some armour.body :=
      pemBody_eq_some.2 ⟨file, armour, rfl, hlines, rfl⟩
    have hdecoded : decodeBase64 (Chars.bytes armour.body) = some document.write :=
      decodeBase64_eq_some.2 hbody.symm
    have hlength := decoded_length hsmall hpem hdecoded
    have hmagic : AUTH_MAGIC.isPrefixOf document.write = true :=
      List.isPrefixOf_iff_prefix.2 (List.prefix_append _ _)
    have hfields : document.write.drop AUTH_MAGIC.length = document.fields := List.drop_left
    rw [Document.write, List.length_append] at hlength
    have hsizes : document.fields.length < 2 ^ 16 + 1 := by
      have hbound : MAX_KEY_FILE_BYTES = 2 ^ 16 := by decide
      omega
    have hunit : 256 ^ 4 = 2 ^ 32 := by decide
    have hparts := hsizes
    simp only [Document.fields, writeField, List.length_append, bigEndian_length] at hparts
    obtain ⟨r₁, hcipher, hrest₁, hw₁⟩ := WireReader.readString_of_rest
      (WireReader.within_new (by omega)) (by decide) (WireReader.rest_new document.fields)
    obtain ⟨r₂, hkdf, hrest₂, hw₂⟩ := WireReader.readString_of_rest hw₁ (by decide) hrest₁
    obtain ⟨r₃, hoptions, hrest₃, hw₃⟩ := WireReader.readString_of_rest hw₂
      (by simp only [writeField, List.length_append, bigEndian_length]; omega) hrest₂
    obtain ⟨hcount, hrest₄, hw₄⟩ := WireReader.readU32_of_rest hw₃ (by decide) hrest₃
    obtain ⟨r₅, hblob, hrest₅, hw₅⟩ := WireReader.readString_of_rest hw₄ (by omega) hrest₄
    obtain ⟨r₆, hencrypted, hend, -⟩ := @WireReader.readString_of_rest r₅ hw₅ document.encrypted []
      (by omega) (by rw [hrest₅, List.append_nil])
    have hrounds : bcryptRounds (writeField document.salt ++ bigEndian 4 document.rounds) =
        .ok document.rounds := by
      rw [bcryptRounds_eq_ok
        (by simp only [writeField, List.length_append, bigEndian_length]; omega)]
      exact ⟨document.salt, rfl, document.salted, document.bounded⟩
    have hidentity : publicIdentity document.publicPart.write =
        .ok document.publicPart.identity := by
      rw [publicIdentity_eq_ok (by omega)]
      exact ⟨document.publicPart, rfl, rfl⟩
    rw [← hfields] at hcipher
    exact ⟨⟨⟩, hsmall, armour.body, hpem, document.write, hdecoded, ⟨⟩, hmagic, _, r₁, hcipher, ⟨⟩,
      rfl, _, r₂, hkdf, ⟨⟩, rfl, _, r₃, hoptions, document.rounds, hrounds, 1, _, hcount, ⟨⟩, rfl,
      _, r₅, hblob, _, _, hidentity, document.encrypted, r₆, hencrypted, ⟨⟩, document.aligned, ⟨⟩,
      WireReader.remaining_eq_zero.2 hend, rfl⟩

/-! ## Files that are written -/

/-- What holds of each letter and of the padding holds of all that is written. -/
theorem encodeStd_forall {p : UInt8 → Prop} (hletter : ∀ n, n < 64 → p (stdLetter n))
    (hpadding : p 0x3D) (s : Bytes) : ∀ b ∈ encodeStd s, p b := by
  fun_induction encodeStd s with
  | case1 => simp
  | case2 a =>
      have ha : a.toNat < 256 := a.toNat_lt
      simp only [List.forall_mem_cons]
      exact ⟨hletter _ (by omega), hletter _ (by omega), hpadding, hpadding, by simp⟩
  | case3 a b =>
      have ha : a.toNat < 256 := a.toNat_lt
      have hb : b.toNat < 256 := b.toNat_lt
      simp only [List.forall_mem_cons]
      exact ⟨hletter _ (by omega), hletter _ (by omega), hletter _ (by omega), hpadding, by simp⟩
  | case4 a b c rest ih =>
      have ha : a.toNat < 256 := a.toNat_lt
      have hb : b.toNat < 256 := b.toNat_lt
      have hc : c.toNat < 256 := c.toNat_lt
      simp only [List.forall_mem_cons]
      exact ⟨hletter _ (by omega), hletter _ (by omega), hletter _ (by omega), hletter _ (by omega),
        ih⟩

/-- A byte as the character of its number. -/
def asChar (b : UInt8) : Char := Char.ofNat b.toNat

private theorem letter_facts : ∀ n, n < 64 →
    String.utf8EncodeChar (asChar (stdLetter n)) = [stdLetter n] ∧
      isWhitespace (asChar (stdLetter n)) = false ∧ asChar (stdLetter n) ≠ '-' := by
  decide +kernel

/-- The text of a document in one line between the markers. -/
def Document.file (d : Document) : Chars :=
  PEM_BEGIN ++ '\n' :: ((encodeStd d.write).map asChar ++ '\n' :: (PEM_END ++ ['\n']))

theorem encodeStd_facts (s : Bytes) : ∀ b ∈ encodeStd s, String.utf8EncodeChar (asChar b) = [b] ∧
    isWhitespace (asChar b) = false ∧ asChar b ≠ '-' :=
  encodeStd_forall letter_facts (by decide) s

theorem bytes_letters (s : Bytes) : Chars.bytes ((encodeStd s).map asChar) = encodeStd s := by
  have hall := encodeStd_facts s
  generalize encodeStd s = written at hall
  induction written with
  | nil => rfl
  | cons b written ih =>
      rw [List.forall_mem_cons] at hall
      show String.utf8EncodeChar (asChar b) ++ Chars.bytes (written.map asChar) = _
      rw [hall.1.1, ih hall.2]
      rfl

/-- A document that is small enough has a file that carries it. -/
theorem carries_file {d : Document} (hsmall : (Chars.bytes d.file).length ≤ MAX_KEY_FILE_BYTES) :
    Carries (Chars.bytes d.file) d := by
  have hall : ∀ c ∈ (encodeStd d.write).map asChar, isWhitespace c = false ∧ c ≠ '-' := by
    intro c hc
    obtain ⟨b, hb, rfl⟩ := List.mem_map.1 hc
    exact (encodeStd_facts d.write b hb).2
  have htrim : Chars.trimEnd ((encodeStd d.write).map asChar) = (encodeStd d.write).map asChar :=
    trimEnd_eq_self fun c hc => (hall c hc).1
  have hplain : ∀ c, isWhitespace c = true → c ∉ (encodeStd d.write).map asChar := by
    intro c hc hmem
    rw [(hall c hmem).1] at hc
    cases hc
  have hlines : Chars.lines d.file = [PEM_BEGIN, (encodeStd d.write).map asChar, PEM_END] := by
    rw [Document.file, lines_cons (by decide) (by decide),
      lines_cons (hplain _ (by decide)) (hplain _ (by decide)),
      lines_cons (by decide) (by decide)]
    rfl
  have hwritten : (encodeStd d.write).map asChar ≠ [] := by
    intro hnil
    have hlength := length_le_encodeStd d.write
    have hmagic : AUTH_MAGIC.length = 15 := by decide
    rw [List.map_eq_nil_iff.1 hnil, Document.write, List.length_append, List.length_nil] at hlength
    omega
  have hmarker : (encodeStd d.write).map asChar ≠ PEM_END := by
    intro hsame
    exact (hall '-' (by rw [hsame]; decide)).2 rfl
  refine ⟨hsmall, d.file, ⟨PEM_BEGIN, [(encodeStd d.write).map asChar], PEM_END, [], by decide, ?_,
    by decide, by simp⟩, rfl, hlines, ?_⟩
  · rw [List.forall_mem_singleton, htrim]
    exact ⟨hmarker, hwritten⟩
  · show Chars.bytes ([(encodeStd d.write).map asChar].flatMap Chars.trimEnd) = _
    rw [List.flatMap_singleton, htrim, bytes_letters]

/-! ## Exactness -/

/-- A key file is accepted exactly where it carries a document, the decoder takes the one spelling
of each byte string and gives it back, and whatever length is declared, what a read hands out lies
in the buffer at the offset. -/
theorem validate_exact :
    (∀ bytes envelope, validate bytes = .ok envelope ↔
      ∃ document, Carries bytes document ∧ document.envelope = envelope) ∧
    (∀ input output, decodeBase64 input = some output ↔ encodeStd output = input) ∧
    (∀ (r r' : WireReader) (n : Nat), r.readU32 = some (n, r') →
      r'.bytes = r.bytes ∧ r'.offset = r.offset + 4 ∧ r'.offset ≤ r.bytes.length ∧
        r.bytes.drop r.offset = bigEndian 4 n ++ r.bytes.drop r'.offset) ∧
    (∀ (r r' : WireReader) (value : Bytes), r.readString = some (value, r') →
      r'.bytes = r.bytes ∧ r'.offset = r.offset + (4 + value.length) ∧ r'.offset ≤ r.bytes.length ∧
        r.bytes.drop r.offset = writeField value ++ r.bytes.drop r'.offset) := by
  refine ⟨fun _ _ => validate_eq_ok, fun _ _ => decodeBase64_eq_some, ?_, ?_⟩
  · intro r r' n h
    obtain ⟨rfl, hend, -, hrest⟩ := WireReader.readU32_bounded h
    exact ⟨rfl, rfl, hend, hrest⟩
  · intro r r' value h
    obtain ⟨rfl, hend, -, hrest⟩ := WireReader.readString_bounded h
    exact ⟨rfl, rfl, hend, hrest⟩

/-- A key with sixteen rounds. -/
def nominal (part : PublicPart) : Document where
  salt := List.replicate 16 3
  salted := by decide
  rounds := 16
  bounded := by decide
  publicPart := part
  encrypted := List.replicate 48 9
  aligned := by decide

def nominalEd25519 : Document := nominal (.ed25519 (List.replicate 32 7) (by decide))

theorem validate_exact_nominal :
    validate (Chars.bytes nominalEd25519.file) = .ok ⟨.ed25519, 16, none⟩ ∧
      ∃ r', (WireReader.mk [0, 0, 0, 2, 5, 6, 7] 0).readString = some ([5, 6], r') ∧
        r'.offset ≤ 7 := by
  have hread : (WireReader.mk [0, 0, 0, 2, 5, 6, 7] 0).readString =
      some ([5, 6], ⟨[0, 0, 0, 2, 5, 6, 7], 6⟩) := by decide
  refine ⟨?_, _, hread, (validate_exact.2.2.2 _ _ _ hread).2.2.1⟩
  exact (validate_exact.1 _ _).2 ⟨nominalEd25519, carries_file (by decide +kernel), rfl⟩

/-! ## Integers of the wire format -/

/-- A positive integer as the SSH wire format writes it: its first byte has no sign, and is zero
only where the next one would have. -/
def IsPositiveMpint (s : Bytes) : Prop :=
  ∃ first rest, s = first :: rest ∧ first < 0x80 ∧ (first = 0 → ∃ b ∈ rest.head?, 0x80 ≤ b)

def PublicPart.IsWire : PublicPart → Prop
  | ed25519 _ _ => True
  | rsa exponent modulus _ => IsPositiveMpint exponent ∧ IsPositiveMpint modulus

/-- A file carries one document at most, as far as that is written. -/
theorem Carries.write_eq {bytes : Bytes} {d d' : Document} (h : Carries bytes d)
    (h' : Carries bytes d') : d.write = d'.write := by
  obtain ⟨-, file, armour, hfile, hlines, hbody⟩ := h
  obtain ⟨-, file', armour', hfile', hlines', hbody'⟩ := h'
  have hpem := pemBody_eq_some.2 ⟨file, armour, hfile, hlines, rfl⟩
  rw [pemBody_eq_some.2 ⟨file', armour', hfile', hlines', rfl⟩] at hpem
  rw [← Option.some.inj hpem] at hbody
  have hdecoded := decodeBase64_eq_some.2 hbody.symm
  rw [decodeBase64_eq_some.2 hbody'.symm] at hdecoded
  exact (Option.some.inj hdecoded).symm

theorem Carries.fields_length {bytes : Bytes} {d : Document} (h : Carries bytes d) :
    d.fields.length ≤ MAX_KEY_FILE_BYTES := by
  obtain ⟨hsmall, file, armour, hfile, hlines, hbody⟩ := h
  have hpem := pemBody_eq_some.2 ⟨file, armour, hfile, hlines, rfl⟩
  have hlength := decoded_length hsmall hpem (decodeBase64_eq_some.2 hbody.symm)
  rw [Document.write, List.length_append] at hlength
  omega

/-- What a file carries says the public part of it. -/
theorem Carries.publicPart_eq {bytes : Bytes} {d d' : Document} (h : Carries bytes d)
    (h' : Carries bytes d') : d.publicPart.write = d'.publicPart.write := by
  have hfields : d.fields = d'.fields := List.append_cancel_left (h.write_eq h')
  have hlength := h.fields_length
  have hlength' := h'.fields_length
  have hbound : MAX_KEY_FILE_BYTES < 256 ^ 4 := by decide
  simp only [Document.fields, writeField, List.length_append, bigEndian_length] at hlength hlength'
  unfold Document.fields at hfields
  obtain ⟨-, hfields⟩ := SelfDelimiting.field (by decide) (by decide) hfields
  obtain ⟨-, hfields⟩ := SelfDelimiting.field (by decide) (by decide) hfields
  obtain ⟨-, hfields⟩ := SelfDelimiting.field
    (by simp only [writeField, List.length_append, bigEndian_length]; omega)
    (by simp only [writeField, List.length_append, bigEndian_length]; omega) hfields
  exact (SelfDelimiting.field (by omega) (by omega) (List.append_cancel_left hfields)).1

/-- An RSA key whose modulus has its first bit set, with no byte before it for the sign. -/
def nominalRsa : Document :=
  nominal (.rsa [1, 0, 1] (0x80 :: List.replicate 383 0) (by
    have hsize : 7 < Nat.size 128 := Nat.lt_size.2 (by decide)
    rw [size_fromBigEndian (by decide), List.length_replicate]
    show 3072 ≤ 383 * 8 + Nat.size 128
    omega))

/-- The integers of an RSA key need not be those of the wire format. -/
theorem negative_modulus_accepted :
    validate (Chars.bytes nominalRsa.file) = .ok ⟨.rsa, 16, some 3072⟩ ∧
      ¬ ∃ document, Carries (Chars.bytes nominalRsa.file) document ∧
        document.publicPart.IsWire := by
  have hcarries : Carries (Chars.bytes nominalRsa.file) nominalRsa :=
    carries_file (by decide +kernel)
  constructor
  · rw [validate_eq_ok]
    refine ⟨nominalRsa, hcarries, ?_⟩
    have hsize : Nat.size 128 = 8 :=
      Nat.le_antisymm (Nat.size_le.2 (by decide)) (Nat.lt_size.2 (by decide))
    show ValidatedEnvelope.mk .rsa 16
      (some (Nat.size (fromBigEndian (0x80 :: List.replicate 383 0)))) = _
    rw [size_fromBigEndian (by decide), List.length_replicate]
    show ValidatedEnvelope.mk .rsa 16 (some (383 * 8 + Nat.size 128)) = _
    rw [hsize]
  · rintro ⟨document, hdocument, hwire⟩
    have hpart := hdocument.publicPart_eq hcarries
    have hfits := hdocument.fields_length
    have hbound : MAX_KEY_FILE_BYTES < 256 ^ 4 := by decide
    simp only [Document.fields, writeField, List.length_append] at hfits
    cases hkind : document.publicPart with
    | ed25519 point whole =>
        rw [hkind] at hpart
        have htype := (SelfDelimiting.field (by decide) (by decide) hpart).1
        exact absurd htype (by decide)
    | rsa exponent modulus large =>
        rw [hkind] at hpart hwire hfits
        simp only [PublicPart.write, writeField, List.length_append] at hfits
        obtain ⟨-, hintegers⟩ := SelfDelimiting.field (by decide) (by decide) hpart
        obtain ⟨-, hmodulus⟩ := SelfDelimiting.field (by omega) (by decide) hintegers
        have hsame : modulus = 0x80 :: List.replicate 383 0 :=
          SelfDelimiting.injective SelfDelimiting.field (by omega)
            (by rw [List.length_cons, List.length_replicate]; decide) hmodulus
        obtain ⟨first, rest, hfirst, hsign, -⟩ := hwire.2
        rw [hsame] at hfirst
        rw [← (List.cons.inj hfirst).1] at hsign
        exact absurd hsign (by decide)

end YourCloud.Assistant.OpensshKey
