import RbhTrade.Lib.Aead
import RbhTrade.Lib.Bytes
import RbhTrade.Store.ManualArtifact

/-!
# Sealed MANUAL artifacts

The rest of the package `manualartifact`: the check of signed bytes against facts, their encryption
under the authenticated text of the facts, and the envelope that is stored. The transaction codec
and the recovery of the sender are a host, and so is the hash function; the cipher is any value of
its interface, with a state. A nil cipher is left out.
-/

namespace RbhTrade.ManualArtifact

open Aead Hex Json

def maxRawBytes : Nat := 131072

inductive Failure where
  | identity
  | integrity
  | cipher
deriving DecidableEq

/-- The bytes that hexadecimal digits stand for. -/
def hexBytes (cs : List Char) : Option (List UInt8) := (decode cs).map (List.map UInt8.ofNat)

def textBytes (bytes : List UInt8) : String := String.ofList (encode bytes)

/-- `hex.EncodeToString` of the hash of bytes. -/
def rawDigest (sum : Sum256) (raw : List UInt8) : String := textBytes (sum raw.toByteArray).toList

/-! ## `Verify` -/

/-- The fields of a dynamic fee transaction that are compared. -/
structure Fields where
  chainId : Nat
  nonce : Nat
  recipient : Option (List UInt8)
  value : Nat
  data : List UInt8
  gas : Nat
  gasFeeCap : Nat
  gasTipCap : Nat
deriving DecidableEq

/-- `types.Transaction`; `Signature` stands for the three numbers of a signature. -/
structure Transaction (Signature : Type) where
  kind : Nat
  accessList : Nat
  fields : Fields
  signature : Signature

/-- `UnmarshalBinary`, `MarshalBinary`, `Hash` and `types.Sender` for the latest signer of a
chain. -/
structure Codec (Signature : Type) where
  unmarshal : List UInt8 → Option (Transaction Signature)
  marshal : Transaction Signature → Option (List UInt8)
  hash : Transaction Signature → Vector UInt8 32
  sender : Nat → Transaction Signature → Option (List UInt8)

/-- `common.HexToAddress` of a valid address. -/
def addressOf (v : String) : Option (List UInt8) := (marked? v).bind hexBytes

/-- `Transaction`: the fields that the facts ask for. -/
def Facts.transaction (f : Facts) : Option Fields :=
  if f.validate then do
    let nonce ← nonce? f.nonce
    let value ← u256 f.value
    let fee ← u256 f.gasFeeCap
    let tip ← u256 f.gasTipCap
    let data ← (marked? f.data).bind hexBytes
    some ⟨4663, nonce, addressOf f.recipient, value, data, f.gasLimit.toNat, fee, tip⟩
  else none

structure Verification where
  factsHash : String
  txHash : String
  rawSha256 : String
deriving DecidableEq

section Code

variable {Signature σ : Type} (codec : Codec Signature) (sum : Sum256) (c : Cipher σ)

def verify (raw : List UInt8) (f : Facts) : Except Failure Verification :=
  match f.transaction with
  | none => .error .identity
  | some expected =>
      if raw = [] ∨ maxRawBytes < raw.length then .error .integrity
      else
        match codec.unmarshal raw with
        | none => .error .integrity
        | some tx =>
            if tx.kind ≠ 2 ∨ tx.accessList ≠ 0 then .error .integrity
            else if codec.marshal tx ≠ some raw then .error .integrity
            else if tx.fields ≠ expected then .error .integrity
            else if codec.sender 4663 tx = none ∨ codec.sender 4663 tx ≠ addressOf f.sender then
              .error .integrity
            else
              .ok ⟨digest sum f.marshal, "0x" ++ textBytes (codec.hash tx).toList,
                rawDigest sum raw⟩

/-! ## `Seal` and `Open` -/

structure Encrypted where
  version : UInt64
  factsHash : String
  txHash : String
  rawSha256 : String
  keyVersion : String
  ciphertext : List UInt8
  nonce : List UInt8
deriving DecidableEq

/-- What is checked of a value before it is decrypted. -/
def Encrypted.Shaped (v : Encrypted) (key hash : String) : Prop :=
  v.version = 1 ∧ validID v.keyVersion = true ∧ v.keyVersion = key ∧ v.factsHash = hash ∧
    markedHex v.txHash 64 = true ∧ fixedHex v.rawSha256 64 = true ∧ 16 < v.ciphertext.length ∧
    v.ciphertext.length ≤ maxRawBytes + 16 ∧ v.nonce.length = 12
deriving Decidable

/-- The authenticated bytes of the facts. -/
def Facts.aadBytes (f : Facts) : List UInt8 := Bytes.ofText ((f.aad sum).getD "")

/-- `Open`. -/
def openSealed (v : Encrypted) (f : Facts) (s : σ) : Except Failure Verification × σ :=
  match f.canonical sum with
  | none => (.error .identity, s)
  | some (_, hash) =>
      if ¬ v.Shaped (c.keyVersion s) hash then (.error .cipher, s)
      else
        match c.decrypt v.keyVersion v.ciphertext v.nonce (f.aadBytes sum) s with
        | ((none, _), s') => (.error .cipher, s')
        | ((some plaintext, buffers), s') =>
            match verify codec sum plaintext f with
            | .error _ => (.error .integrity, s')
            | .ok verified =>
                if verified ≠ ⟨v.factsHash, v.txHash, v.rawSha256⟩ ∨
                  c.keyVersion s' ≠ v.keyVersion ∨
                    buffers ≠ (v.ciphertext, v.nonce) then
                  (.error .integrity, s')
                else (.ok verified, s')

/-- `Seal`. -/
def sealRaw (raw : List UInt8) (f : Facts) (s : σ) : Except Failure Encrypted × σ :=
  match verify codec sum raw f with
  | .error e => (.error e, s)
  | .ok verified =>
      if validID (c.keyVersion s) = false then (.error .cipher, s)
      else
        match c.encrypt raw (f.aadBytes sum) s with
        | (none, s') => (.error .cipher, s')
        | (some (ciphertext, nonce), s') =>
            if ciphertext.length ≠ raw.length + 16 ∨ maxRawBytes + 16 < ciphertext.length ∨
                nonce.length ≠ 12 ∨ c.keyVersion s' ≠ c.keyVersion s then
              (.error .cipher, s')
            else
              let v : Encrypted := ⟨1, verified.factsHash, verified.txHash, verified.rawSha256,
                c.keyVersion s, ciphertext, nonce⟩
              match openSealed codec sum c v f s' with
              | (.error _, s'') => (.error .cipher, s'')
              | (.ok _, s'') => (.ok v, s'')

end Code

/-! ## The envelope -/

/-- `EnvelopeMetadata`. -/
structure Envelope where
  version : UInt64
  factsHash : String
  txHash : String
  rawSha256 : String
  keyVersion : String
  ciphertext : String
  encryptionNonce : String
  completedAt : String
deriving DecidableEq

def envelopeNames : List String :=
  ["version", "facts_hash", "tx_hash", "raw_sha256", "key_version", "ciphertext",
    "encryption_nonce",
   "completed_at"]

def Envelope.members (m : Envelope) : List (String × Value) :=
  [("version", .nat m.version.toNat), ("facts_hash", .text m.factsHash),
    ("tx_hash", .text m.txHash),
   ("raw_sha256", .text m.rawSha256), ("key_version", .text m.keyVersion),
   ("ciphertext", .text m.ciphertext), ("encryption_nonce", .text m.encryptionNonce),
   ("completed_at", .text m.completedAt)]

def Envelope.json (m : Envelope) : Value := .struct m.members

/-- `json.Marshal(m)`. -/
def Envelope.marshal (m : Envelope) : String := m.json.render

/-- What `json.Unmarshal` makes of a value. -/
def decodeMembers (v : Value) : Option Envelope := do
  let members ← members? v
  let values := fieldValues envelopeNames members
  let text := fun name => fill readText "" (values name)
  some {
    version := .ofNat (← fill (readNat (2 ^ 64)) 0 (values "version"))
    factsHash := ← text "facts_hash"
    txHash := ← text "tx_hash"
    rawSha256 := ← text "raw_sha256"
    keyVersion := ← text "key_version"
    ciphertext := ← text "ciphertext"
    encryptionNonce := ← text "encryption_nonce"
    completedAt := ← text "completed_at" }

/-- The envelope that is stored for a sealed value. -/
def Encrypted.envelope (v : Encrypted) (completedAt : String) : Envelope :=
  ⟨v.version, v.factsHash, v.txHash, v.rawSha256, v.keyVersion, textBytes v.ciphertext,
    textBytes v.nonce, completedAt⟩

/-- The time is not before the claim and before the expiry. -/
def Facts.Covers (f : Facts) (time : String) : Prop :=
  ∃ completed ∈ canonicalTime time, ∃ claimed ∈ canonicalTime f.claimedAt,
    ∃ expires ∈ canonicalTime f.expiresAt, ¬ completed < claimed ∧ completed < expires
deriving Decidable

/-- `DecodeEnvelopeMetadata`. -/
def decodeEnvelopeMetadata (sum : Sum256) (raw : String) (f : Facts) :
    Option (Encrypted × String) :=
  if 2 * maxRawBytes + 2048 < raw.utf8ByteSize then none
  else
    match (parse raw).bind decodeMembers, f.canonical sum with
    | some m, some (_, hash) =>
        if m.marshal ≠ raw ∨ m.version ≠ 1 ∨ m.factsHash ≠ hash ∨ ¬ f.Covers m.completedAt ∨
            markedHex m.txHash 64 = false ∨ fixedHex m.rawSha256 64 = false ∨
            validID m.keyVersion = false ∨ m.encryptionNonce.utf8ByteSize ≠ 24 ∨
            m.ciphertext.utf8ByteSize ≤ 32 ∨ 2 * (maxRawBytes + 16) < m.ciphertext.utf8ByteSize ∨
            lowerCase m.ciphertext.toList = false ∨ lowerCase m.encryptionNonce.toList = false then
          none
        else
          match hexBytes m.ciphertext.toList, hexBytes m.encryptionNonce.toList with
          | some ciphertext, some nonce =>
              some (⟨m.version, m.factsHash, m.txHash, m.rawSha256, m.keyVersion, ciphertext,
                nonce⟩, m.completedAt)
          | _, _ => none
    | _, _ => none

end RbhTrade.ManualArtifact
