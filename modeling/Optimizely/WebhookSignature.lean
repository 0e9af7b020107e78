import Optimizely.Utf16

/-!
# Webhook signatures

Both checks compare the bytes of two texts with `timingSafeEqual`, which throws where these are not
equally many. HMAC-SHA256 is a parameter.
-/

namespace WebhookSignature

open Utf16

/-- Half-bytes of a SHA-256 digest. -/
abbrev Digest := Fin 64 → Fin 16

def hex (digest : Digest) : Text := List.ofFn fun i => unit ("0123456789abcdef".toList[digest i])

/-- The character of a code point. A lone surrogate is replaced. -/
def character : Text → Char
  | [u] => if isHighSurrogate u || isLowSurrogate u then Char.ofNat 0xFFFD else Char.ofNat u.toNat
  | u :: v :: _ =>
    Char.ofNat (0x10000 + (u.toNat - 0xD800) * 0x400 + (v.toNat - 0xDC00))
  | [] => default

/-- `Buffer.from(text)` -/
def bufferFrom (s : Text) : List UInt8 :=
  (codePoints s).flatMap fun point => String.utf8EncodeChar (character point)

/-- `crypto.timingSafeEqual` -/
def timingSafeEqual (a b : List UInt8) : Except String Bool :=
  if a.length = b.length then .ok (a = b)
  else .error "Input buffers must have the same byte length"

/-- A payload that is no string comes with its JSON text. -/
inductive Payload where
  | string (text : Text)
  | value (json : Text)

def Payload.text : Payload → Text
  | string text => text
  | value json => json

variable (createHmac : Text → Text → Digest) (payload : Payload) (secret signaturePrefix : Text)

def fullExpectedSignature : Text := signaturePrefix ++ hex (createHmac secret payload.text)

/-- `verifySignature` of the processing service. -/
def verifyIncoming : Option Text → Except String Bool
  | none => .ok false
  | some signature =>
    if signature = [] then .ok false
    else timingSafeEqual (bufferFrom signature)
      (bufferFrom (fullExpectedSignature createHmac payload secret signaturePrefix))

/-- `verifySignature` of the webhook manager. -/
def verifyManaged (payload signature : Text) : Except String Bool :=
  timingSafeEqual (bufferFrom signature)
    (bufferFrom (ofString "sha256=" ++ hex (createHmac secret payload)))

/-- The bytes are equally many, and they tell the texts apart. -/
structure Comparable (signature expected : Text) : Prop where
  length : (bufferFrom signature).length = (bufferFrom expected).length
  exact : bufferFrom signature = bufferFrom expected → signature = expected

lemma timingSafeEqual_iff (s expected : Text) :
    timingSafeEqual (bufferFrom s) (bufferFrom expected) = .ok (s = expected) ↔
      Comparable s expected := by
  rw [timingSafeEqual]
  split
  · rename_i l
    rw [Except.ok.injEq, decide_eq_decide]
    exact ⟨fun h => ⟨l, h.mp⟩, fun h => ⟨h.exact, congrArg bufferFrom⟩⟩
  · rename_i l
    exact ⟨nofun, fun h => absurd h.length l⟩

/-- Each check answers whether the signature is the expected one exactly where the two are
comparable; the processing service also answers where there is none. -/
theorem answers_iff (signature : Option Text) (text : Text) :
    (verifyIncoming createHmac payload secret signaturePrefix signature = .ok (signature =
        some (fullExpectedSignature createHmac payload secret signaturePrefix)) ↔
      ∀ s ∈ signature, s = [] ∨
        Comparable s (fullExpectedSignature createHmac payload secret signaturePrefix)) ∧
    (verifyManaged createHmac secret payload.text text =
        .ok (text = ofString "sha256=" ++ hex (createHmac secret payload.text)) ↔
      Comparable text (ofString "sha256=" ++ hex (createHmac secret payload.text))) := by
  refine ⟨?_, timingSafeEqual_iff _ _⟩
  cases signature with
  | none => simp [verifyIncoming]
  | some s =>
    by_cases hem : s = []
    · have he : fullExpectedSignature createHmac payload secret signaturePrefix ≠ [] := by
        simp [fullExpectedSignature, hex]
      simp [verifyIncoming, hem, he.symm]
    · simp [verifyIncoming, hem, timingSafeEqual_iff]

/-- A signature without its start is refused by an exception. -/
theorem short_signature_throws :
    verifyIncoming (fun _ _ _ => 0) (.string []) [] (ofString "sha256=") (some (hex fun _ => 0)) =
        .error "Input buffers must have the same byte length" ∧
      verifyManaged (fun _ _ _ => 0) [] [] [] =
        .error "Input buffers must have the same byte length" := by
  decide +kernel

end WebhookSignature
