import FrameScope.Ports.SourceBinding
import FrameScope.Verified.ByteCodes
import FrameScope.Verified.Fallible

/-!
# Hashing a source

Port of the hashing half of `framescope-cache/src/identity.rs`: the bytes that
`stable_key` feeds to the hash, and the loop that hashes a seekable source.

BLAKE3 is a parameter; a hasher is the bytes it has been fed.  A reader has a
fixed content, and answers each call as it likes: with an error, or, for a
read, with as many of the bytes at its position as it chooses.

The encoding of an identity is injective, a field after the other, so equal
keys of different identities are a collision of the hash.  A run that returns
has hashed the whole content from offset 0, however it was split up, and every
run that knows the original position ends by seeking back to it.
-/

namespace FrameScope.Ports.SourceHashing

open FrameScope.Ports.Core
open FrameScope.Ports.SourceBinding
open FrameScope.Verified.ByteCodes
open FrameScope.Verified.Fallible

/-! ## The hash -/

/-- BLAKE3. -/
class Blake3 where
  digest : List UInt8 → List UInt8
  digest_length : ∀ input, (digest input).length = 32

/-- A hasher, as the bytes it has been fed. -/
abbrev Hasher := List UInt8

/-- `Hasher::update`. -/
def Hasher.update (hasher : Hasher) (bytes : List UInt8) : Hasher := hasher ++ bytes

def hexDigits : List Char :=
  ['0', '1', '2', '3', '4', '5', '6', '7', '8', '9', 'a', 'b', 'c', 'd', 'e', 'f']

/-- The two lower-case digits of a byte. -/
def hexByte (byte : UInt8) : List Char :=
  [hexDigits.getD (byte.toNat / 16) '0', hexDigits.getD (byte.toNat % 16) '0']

/-- `Hash::to_hex`. -/
def toHex (digest : List UInt8) : String := String.ofList (digest.flatMap hexByte)

/-- The bytes of a text, without a terminator. -/
def textBytes (text : String) : List UInt8 := text.toUTF8.data.toList

/-! ## The stable key -/

/-- `KEY_DOMAIN`. -/
def keyDomain : List UInt8 := textBytes "framescope-source-v3" ++ [0]

/-- `hash_optional_u64`. -/
def hashOptionalU64 (hasher : Hasher) : Option Nat → Hasher
  | some value => (hasher.update [1]).update (leBytes 8 value)
  | none => hasher.update [0]

/-- `hash_optional_text`. -/
def hashOptionalText (hasher : Hasher) : Option String → Hasher
  | some value =>
      ((hasher.update [1]).update (leBytes 8 (textBytes value).length)).update (textBytes value)
  | none => hasher.update [0]

/-- What `stable_key` feeds to the hash. -/
def keyInput (source : SourceIdentity) : Hasher :=
  let hasher := Hasher.update [] keyDomain
  let hasher := hashOptionalU64 hasher source.sizeBytes
  let hasher := hashOptionalU64 hasher source.modifiedTimeMs
  let hasher := hashOptionalText hasher source.providerDocumentId
  hashOptionalText hasher source.contentTag

/-- `stable_key`. -/
def stableKey [Blake3] (source : SourceIdentity) : String :=
  toHex (Blake3.digest (keyInput source))

/-! ## The reader -/

inductive IoError
  | unexpectedEof (detail : String)
  | invalidData (detail : String)
  /-- An error of the reader or of the check hook. -/
  | other (code : Nat)
  deriving DecidableEq, Repr

/-- The calls of one run, on the reader and on the check hook. -/
inductive ReaderCall
  | check
  | streamPosition
  | seekEnd
  | seekStart (position : Nat)
  | read (wanted : Nat)
  deriving DecidableEq, Repr

/-- A reader and a check hook: the content, and how each call is answered.  A
read takes the number as the bytes it is willing to return. -/
structure Reader where
  content : List UInt8
  answer : Nat → Except IoError Nat

structure ReaderState where
  position : Nat
  calls : List ReaderCall
  deriving DecidableEq, Repr

abbrev ReaderM := EStateM IoError ReaderState

section Calls

variable (reader : Reader)

/-- The answer to a call. -/
def Reader.answerTo (call : ReaderCall) : ReaderM Nat := do
  let s ← get
  set { s with calls := s.calls ++ [call] }
  ofExcept id (reader.answer s.calls.length)

def Reader.check : ReaderM Unit := do
  let _ ← reader.answerTo .check

def Reader.streamPosition : ReaderM Nat := do
  let _ ← reader.answerTo .streamPosition
  return (← get).position

/-- `seek(SeekFrom::End(0))`. -/
def Reader.seekEnd : ReaderM Nat := do
  let _ ← reader.answerTo .seekEnd
  modify fun s => { s with position := reader.content.length }
  return reader.content.length

/-- `seek(SeekFrom::Start(position))`. -/
def Reader.seekStart (position : Nat) : ReaderM Nat := do
  let _ ← reader.answerTo (.seekStart position)
  modify fun s => { s with position := position }
  return position

/-- `read` into a buffer of `wanted` bytes. -/
def Reader.read (wanted : Nat) : ReaderM (List UInt8) := do
  let willing ← reader.answerTo (.read wanted)
  let s ← get
  let bytes := (reader.content.drop s.position).take (min willing wanted)
  set { s with position := s.position + bytes.length }
  return bytes

end Calls

/-! ## Hashing the content -/

/-- `FULL_HASH_BUFFER_BYTES`. -/
def fullHashBufferBytes : Nat := 256 * 1024

/-- `FULL_HASH_DOMAIN`. -/
def fullHashDomain : List UInt8 := textBytes "framescope-source-full-v2" ++ [0]

/-- `FULL_HASH_TAG_PREFIX`. -/
def fullHashTagPrefix : String := "blake3-full-v2:"

section Hashing

variable (reader : Reader)

/-- The loop of `hash_complete_seekable`.  Every round takes at least one byte,
so `size` rounds are enough. -/
def hashRounds (size : Nat) : Nat → Nat → Hasher → ReaderM Hasher
  | 0, _, hasher => pure hasher
  | rounds + 1, totalRead, hasher =>
      if totalRead < size then do
        reader.check
        let wanted := min fullHashBufferBytes (size - totalRead)
        let bytes ← reader.read wanted
        if bytes.length = 0 then
          throw (.unexpectedEof "source ended while computing complete reusable identity")
        else
          match checkedAddU64 totalRead bytes.length with
          | none => throw (.invalidData "source size overflow")
          | some totalRead => hashRounds size rounds totalRead (hasher.update bytes)
      else pure hasher

/-- `hash_complete_seekable`. -/
def hashCompleteSeekable [Blake3] : ReaderM (Nat × String) := do
  reader.check
  let size ← reader.seekEnd
  let _ ← reader.seekStart 0
  let hasher := Hasher.update [] fullHashDomain
  let hasher := hasher.update (leBytes 8 size)
  let hasher ← hashRounds reader size size 0 hasher
  return (size, fullHashTagPrefix ++ toHex (Blake3.digest hasher))

/-- The end of `from_seekable_cancellable`: the error of the hash goes before
the error of the restore. -/
def identityOf (modifiedTimeMs : Option Nat) (providerDocumentId : Option String)
    (hashed : Except IoError (Nat × String)) (restore : Except IoError Nat) :
    Except IoError SourceIdentity := do
  let (sizeBytes, contentTag) ← hashed
  let _ ← restore
  return ⟨some sizeBytes, modifiedTimeMs, providerDocumentId, some contentTag⟩

/-- `from_seekable_cancellable`. -/
def fromSeekableCancellable [Blake3] (modifiedTimeMs : Option Nat)
    (providerDocumentId : Option String) : ReaderM SourceIdentity := do
  let originalPosition ← reader.streamPosition
  let hashed ← attempt (hashCompleteSeekable reader)
  let restore ← attempt (reader.seekStart originalPosition)
  ofExcept id (identityOf modifiedTimeMs providerDocumentId hashed restore)

end Hashing

/-! ## The encoding is injective -/

section Encoding

theorem textBytes_injective {left right : String} (h : textBytes left = textBytes right) :
    left = right := by
  unfold textBytes at h
  have hData : left.toUTF8.data = right.toUTF8.data := Array.toList_inj.1 h
  have hBytes : left.toUTF8 = right.toUTF8 := ByteArray.ext hData
  exact String.toByteArray_inj.1 hBytes

/-- The code of an optional number. -/
def optionalU64 (value : Option Nat) : List UInt8 :=
  value.elim [0] fun value => 1 :: leBytes 8 value

/-- The code of an optional text. -/
def optionalText (value : Option String) : List UInt8 :=
  value.elim [0] fun value => 1 :: (leBytes 8 (textBytes value).length ++ textBytes value)

theorem hashOptionalU64_eq (hasher : Hasher) (value : Option Nat) :
    hashOptionalU64 hasher value = hasher ++ optionalU64 value := by
  cases value <;> simp [hashOptionalU64, optionalU64, Hasher.update]

theorem hashOptionalText_eq (hasher : Hasher) (value : Option String) :
    hashOptionalText hasher value = hasher ++ optionalText value := by
  cases value <;> simp [hashOptionalText, optionalText, Hasher.update]

theorem delimits_optionalU64 :
    Delimits (fun value : Option Nat => ∀ n ∈ value, n < 256 ^ 8) optionalU64 :=
  (delimits_leBytes 8).option (by decide)

theorem delimits_optionalText :
    Delimits (fun value : Option String => ∀ text ∈ value, (textBytes text).length < 256 ^ 8)
      optionalText := by
  have hText : Delimits (fun text : String => (textBytes text).length < 256 ^ 8)
      fun text => leBytes 8 (textBytes text).length ++ textBytes text :=
    (delimits_sized (delimits_leBytes 8)).comap (fun _ h => h) fun _ _ => textBytes_injective
  exact hText.option (by decide)

/-- The values that the types of the fields hold. -/
structure FieldsFit (source : SourceIdentity) : Prop where
  sizeBytes : ∀ n ∈ source.sizeBytes, n < 256 ^ 8
  modifiedTimeMs : ∀ n ∈ source.modifiedTimeMs, n < 256 ^ 8
  providerDocumentId : ∀ text ∈ source.providerDocumentId, (textBytes text).length < 256 ^ 8
  contentTag : ∀ text ∈ source.contentTag, (textBytes text).length < 256 ^ 8

theorem keyInput_eq (source : SourceIdentity) :
    keyInput source = keyDomain ++ (optionalU64 source.sizeBytes ++
      (optionalU64 source.modifiedTimeMs ++ (optionalText source.providerDocumentId ++
        optionalText source.contentTag))) := by
  simp [keyInput, hashOptionalU64_eq, hashOptionalText_eq, Hasher.update]

/-- What is fed to the hash tells all fields. -/
theorem keyInput_injective {left right : SourceIdentity} (hLeft : FieldsFit left)
    (hRight : FieldsFit right) (h : keyInput left = keyInput right) : left = right := by
  rw [keyInput_eq, keyInput_eq, List.append_cancel_left_eq] at h
  have hCode := delimits_optionalU64.append (delimits_optionalU64.append
    (delimits_optionalText.append delimits_optionalText))
  have hFields := hCode.injective
    (a := (left.sizeBytes, left.modifiedTimeMs, left.providerDocumentId, left.contentTag))
    (b := (right.sizeBytes, right.modifiedTimeMs, right.providerDocumentId, right.contentTag))
    ⟨hLeft.sizeBytes, hLeft.modifiedTimeMs, hLeft.providerDocumentId, hLeft.contentTag⟩
    ⟨hRight.sizeBytes, hRight.modifiedTimeMs, hRight.providerDocumentId, hRight.contentTag⟩ h
  cases left
  cases right
  simpa using hFields

theorem hexByte_length (byte : UInt8) : (hexByte byte).length = 2 := rfl

theorem hexByte_injective {left right : UInt8} (h : hexByte left = hexByte right) :
    left = right := by
  have hDigit : ∀ m < 16, ∀ n < 16,
      hexDigits.getD m '0' = hexDigits.getD n '0' → m = n := by decide
  unfold hexByte at h
  rw [List.cons.injEq, List.cons.injEq] at h
  have hLeft := left.toNat_lt
  have hRight := right.toNat_lt
  have hHigh := hDigit _ (by omega) _ (by omega) h.1
  have hLow := hDigit _ (by omega) _ (by omega) h.2.1
  apply UInt8.toNat_inj.1
  omega

/-- Hexadecimal text tells the digest. -/
theorem toHex_injective {left right : List UInt8} (h : toHex left = toHex right) :
    left = right := by
  have hCode : Delimits (fun _ : UInt8 => True) hexByte :=
    delimits_fixed hexByte_length fun _ _ _ _ => hexByte_injective
  have hText : left.flatMap hexByte = right.flatMap hexByte := String.ofList_injective h
  clear h
  induction left generalizing right with
  | nil =>
      cases right with
      | nil => rfl
      | cons byte rest => simp [hexByte] at hText
  | cons byte rest ih =>
      cases right with
      | nil => simp [hexByte] at hText
      | cons byte' rest' =>
          rw [List.flatMap_cons, List.flatMap_cons] at hText
          obtain ⟨hByte, hRest⟩ := hCode _ _ _ _ trivial trivial hText
          rw [hByte, ih hRest]

variable [Blake3]

/-- Two inputs with one digest. -/
def Collision : Prop :=
  ∃ left right, left ≠ right ∧ Blake3.digest left = Blake3.digest right

theorem stableKey_eq {left right : SourceIdentity} (hLeft : FieldsFit left)
    (hRight : FieldsFit right) (h : stableKey left = stableKey right) :
    left = right ∨ Collision := by
  have hDigest := toHex_injective h
  by_cases hInput : keyInput left = keyInput right
  · exact Or.inl (keyInput_injective hLeft hRight hInput)
  · exact Or.inr ⟨_, _, hInput, hDigest⟩

theorem stableKey_toList_ne_nil (source : SourceIdentity) : (stableKey source).toList ≠ [] := by
  intro hEmpty
  have hLength := Blake3.digest_length (keyInput source)
  cases hDigest : Blake3.digest (keyInput source) with
  | nil => simp [hDigest] at hLength
  | cons byte rest => simp [stableKey, toHex, hDigest, hexByte] at hEmpty

/-- The keys that the bindings of a frame index are made of. -/
@[reducible] def contentHash : ContentHash where
  stableKey := stableKey
  stableKey_ne_empty := stableKey_toList_ne_nil

end Encoding

/-! ## The loop hashes the whole content -/

section Runs

variable {reader : Reader} {s : ReaderState}

/-- Every call succeeds, every read returns something, and the size is one of a
file. -/
structure Reader.Faultless (reader : Reader) : Prop where
  answers : ∀ n, ∃ willing, 0 < willing ∧ reader.answer n = .ok willing
  fits : reader.content.length < 2 ^ 64

/-- The rule of a call: it is logged, and fails only on a reader with faults. -/
theorem wp_answerTo {call : ReaderCall} {Q : Nat → ReaderState → Prop}
    {E : IoError → ReaderState → Prop}
    (hQ : ∀ willing, reader.answer s.calls.length = .ok willing →
      Q willing { s with calls := s.calls ++ [call] })
    (hE : ¬ reader.Faultless → ∀ e, E e { s with calls := s.calls ++ [call] }) :
    wp (reader.answerTo call) Q E s := by
  unfold Reader.answerTo
  rw [wp_bind, wp_get, wp_bind, wp_set, wp_ofExcept]
  constructor
  · exact hQ
  · intro e hAnswer
    apply hE
    intro hFaultless
    obtain ⟨willing, -, hOk⟩ := hFaultless.answers s.calls.length
    rw [hAnswer] at hOk
    cases hOk

theorem wp_check {Q : Unit → ReaderState → Prop} {E : IoError → ReaderState → Prop}
    (hQ : ∀ calls, Q () ⟨s.position, calls⟩)
    (hE : ¬ reader.Faultless → ∀ e s', E e s') : wp reader.check Q E s := by
  unfold Reader.check
  rw [wp_bind]
  exact wp_answerTo (fun _ _ => hQ _) fun h e => hE h e _

/-- A read returns bytes at the position; none only at the end or from a reader
with faults. -/
theorem wp_read {wanted : Nat} {Q : List UInt8 → ReaderState → Prop}
    {E : IoError → ReaderState → Prop}
    (hQ : ∀ bytes calls, bytes <+: reader.content.drop s.position → bytes.length ≤ wanted →
      (bytes = [] → 0 < wanted → s.position < reader.content.length → ¬ reader.Faultless) →
        Q bytes ⟨s.position + bytes.length, calls⟩)
    (hE : ¬ reader.Faultless → ∀ e s', E e s') : wp (reader.read wanted) Q E s := by
  unfold Reader.read
  rw [wp_bind]
  refine wp_answerTo ?_ fun h e => hE h e _
  intro willing hAnswer
  rw [wp_bind, wp_get, wp_bind, wp_set, wp_pure]
  apply hQ
  · exact List.take_prefix _ _
  · rw [List.length_take]
    omega
  · intro hNone hWanted hInside hFaultless
    obtain ⟨n, hPos, hOk⟩ := hFaultless.answers s.calls.length
    rw [hAnswer, Except.ok.injEq] at hOk
    have hLength := congrArg List.length hNone
    rw [List.length_take, List.length_drop, List.length_nil] at hLength
    change min (min willing wanted) (reader.content.length - s.position) = 0 at hLength
    omega

/-- The rule of a seek to a given position. -/
theorem wp_seekStart {position : Nat} {Q : Nat → ReaderState → Prop}
    {E : IoError → ReaderState → Prop}
    (hQ : Q position ⟨position, s.calls ++ [.seekStart position]⟩)
    (hE : ¬ reader.Faultless → ∀ e, E e ⟨s.position, s.calls ++ [.seekStart position]⟩) :
    wp (reader.seekStart position) Q E s := by
  unfold Reader.seekStart
  rw [wp_bind]
  refine wp_answerTo ?_ hE
  intro _ _
  exact hQ

/-- The input of the content hash. -/
def contentInput (content : List UInt8) : Hasher :=
  fullHashDomain ++ leBytes 8 content.length ++ content

/-- The loop, from the hash of a part of the content to that of all of it. -/
theorem wp_hashRounds {rounds totalRead : Nat} {hasher : Hasher}
    (hRounds : reader.content.length ≤ totalRead + rounds)
    (hTotal : totalRead ≤ reader.content.length) (hPosition : s.position = totalRead) :
    wp (hashRounds reader reader.content.length rounds totalRead hasher)
      (fun hashed _ => hashed = hasher ++ reader.content.drop totalRead)
      (fun _ _ => ¬ reader.Faultless) s := by
  induction rounds generalizing totalRead hasher s with
  | zero =>
      have hAll : totalRead = reader.content.length := by omega
      simp [hashRounds, hAll]
  | succ rounds ih =>
      unfold hashRounds
      by_cases hMore : totalRead < reader.content.length
      · rw [if_pos hMore, wp_bind]
        refine wp_check ?_ fun h _ _ => h
        intro calls
        rw [wp_bind]
        refine wp_read ?_ fun h _ _ => h
        intro bytes calls' hBytes hWanted hEmpty
        rw [hPosition] at hBytes
        by_cases hNone : bytes.length = 0
        · rw [if_pos hNone, wp_throw]
          apply hEmpty (List.length_eq_zero_iff.1 hNone)
          · have hBuffer : 0 < fullHashBufferBytes := by decide
            omega
          · rw [hPosition]
            exact hMore
        · rw [if_neg hNone]
          have hLength := hBytes.length_le
          rw [List.length_drop] at hLength
          cases hAdd : checkedAddU64 totalRead bytes.length with
          | none =>
              intro hFaultless
              unfold checkedAddU64 at hAdd
              have := hFaultless.fits
              rw [if_pos (by omega)] at hAdd
              cases hAdd
          | some total =>
              obtain ⟨-, rfl⟩ := checkedAddU64_eq_some.1 hAdd
              have hRest : wp (hashRounds reader reader.content.length rounds
                    (totalRead + bytes.length) (hasher.update bytes))
                  (fun hashed _ => hashed = hasher.update bytes ++
                    reader.content.drop (totalRead + bytes.length))
                  (fun _ _ => ¬ reader.Faultless) ⟨s.position + bytes.length, calls'⟩ :=
                ih (by omega) (by omega) (congrArg (· + bytes.length) hPosition)
              refine wp_mono hRest ?_ fun _ _ h => h
              intro hashed s' hHashed
              obtain ⟨rest, hSplit⟩ := hBytes
              have hDrop : reader.content.drop (totalRead + bytes.length) = rest := by
                rw [← List.drop_drop, ← hSplit, List.drop_left]
              rw [hHashed, hDrop, Hasher.update, List.append_assoc, hSplit]
      · have hAll : totalRead = reader.content.length := by omega
        simp [hAll]

variable [Blake3]

theorem wp_hashCompleteSeekable :
    wp (hashCompleteSeekable reader)
      (fun hashed _ => hashed = (reader.content.length,
        fullHashTagPrefix ++ toHex (Blake3.digest (contentInput reader.content))))
      (fun _ _ => ¬ reader.Faultless) s := by
  unfold hashCompleteSeekable Reader.seekEnd
  rw [wp_bind]
  refine wp_check ?_ fun h _ _ => h
  intro calls
  simp only [wp_bind, wp_modify, wp_pure]
  refine wp_answerTo ?_ fun h _ => h
  intro _ _
  refine wp_seekStart ?_ fun h _ => h
  refine wp_mono (wp_hashRounds (by omega) (Nat.zero_le _) rfl) ?_ fun _ _ h => h
  intro hashed _ hHashed
  rw [hHashed, List.drop_zero]
  rfl

/-- The run ended by seeking back to the original position. -/
def RestoreAttempted (s s' : ReaderState) : Prop :=
  s'.calls.getLast? = some (.seekStart s.position)

/-- The identity of the content. -/
def identityOfContent (reader : Reader) (modifiedTimeMs : Option Nat)
    (providerDocumentId : Option String) : SourceIdentity :=
  ⟨some reader.content.length, modifiedTimeMs, providerDocumentId,
    some (fullHashTagPrefix ++ toHex (Blake3.digest (contentInput reader.content)))⟩

/-- How `from_seekable_cancellable` ends: with the identity of the whole content
at the original position, or with an error after an attempt to go back there.
Where the original position cannot be told, nothing has moved. -/
theorem wp_fromSeekableCancellable (modifiedTimeMs : Option Nat)
    (providerDocumentId : Option String) :
    wp (fromSeekableCancellable reader modifiedTimeMs providerDocumentId)
      (fun identity s' =>
        identity = identityOfContent reader modifiedTimeMs providerDocumentId ∧
          s'.position = s.position ∧ RestoreAttempted s s')
      (fun _ s' => ¬ reader.Faultless ∧
        (RestoreAttempted s s' ∨
          s' = { s with calls := s.calls ++ [.streamPosition] })) s := by
  unfold fromSeekableCancellable Reader.streamPosition
  simp only [wp_bind, wp_get, wp_pure]
  refine wp_answerTo ?_ fun h _ => ⟨h, Or.inr rfl⟩
  intro _ _
  rw [wp_attempt]
  refine wp_mono wp_hashCompleteSeekable ?_ ?_
  · intro hashed s' hHashed
    rw [wp_attempt]
    apply wp_seekStart
    · subst hHashed
      exact ⟨rfl, rfl, by simp [RestoreAttempted]⟩
    · intro h e
      exact ⟨h, Or.inl (by simp [RestoreAttempted])⟩
  · intro e s' h
    rw [wp_attempt]
    apply wp_seekStart
    · exact ⟨h, Or.inl (by simp [RestoreAttempted])⟩
    · intro _ _
      exact ⟨h, Or.inl (by simp [RestoreAttempted])⟩

/-- A run of `from_seekable_cancellable` hashes the whole content, goes back to
where it started, and returns when no call fails. -/
def HashesFaithfully (reader : Reader) (modifiedTimeMs : Option Nat)
    (providerDocumentId : Option String) (s : ReaderState) : Prop :=
  let run := fromSeekableCancellable reader modifiedTimeMs providerDocumentId s
  (∀ identity s', run = .ok identity s' →
    identity = identityOfContent reader modifiedTimeMs providerDocumentId ∧
      s'.position = s.position ∧ RestoreAttempted s s') ∧
  (∀ e s', run = .error e s' →
    RestoreAttempted s s' ∨ s' = { s with calls := s.calls ++ [.streamPosition] }) ∧
  (reader.Faultless → ∃ identity s', run = .ok identity s')

end Runs

end FrameScope.Ports.SourceHashing
