import AuthServer.Crypto.Rsa
import AuthServer.Encoding.Pem
import AuthServer.IoError
import AuthServer.Text.Quoted

/-!
Single keys: what a key file holds, and what can be wrong with keys.
-/

namespace AuthServer

inductive KeyError where
  | unreadableFolder (path : String) (error : IoError)
  | unreadableFile (path : String) (error : IoError)
  | invalidKey (kid reason : String)
  | unsupportedLabel (kid label : String)
  | duplicateKid (kid : String)
  | activeMissing (kid : String)
  | activeNotSigning (kid : String)
  | notFound (kid : String)
deriving DecidableEq, Repr

def KeyError.message : KeyError → String
  | .unreadableFolder path error => s!"failed to read key directory {path}: {error.message}"
  | .unreadableFile path error => s!"failed to read key file {path}: {error.message}"
  | .invalidKey kid reason => s!"key {kid} could not be parsed: {reason}"
  | .unsupportedLabel kid label => s!"key {kid} has unsupported PEM tag {Text.quote label}"
  | .duplicateKid kid => s!"key {kid} is defined more than once"
  | .activeMissing kid => s!"active kid {kid} is not loaded"
  | .activeNotSigning kid => s!"active kid {kid} has no private key"
  | .notFound kid => s!"key not found: {kid}"

/-- A loaded key: it verifies, and signs if its private half is known. -/
structure KeyEntry where
  signing : Option Rsa.PrivateKey
  verifying : Rsa.PublicKey
deriving DecidableEq, Repr

namespace KeyEntry

def ofPrivate (key : Rsa.PrivateKey) : KeyEntry := ⟨some key, key.publicKey⟩

def ofPublic (key : Rsa.PublicKey) : KeyEntry := ⟨none, key⟩

/-- The entry of a block. The readers of keys have many texts for what is wrong with one; a single
text stands for all of them here. -/
def ofPem (kid : String) (block : Pem) : Except KeyError KeyEntry :=
  let orInvalid (entry : Option KeyEntry) : Except KeyError KeyEntry :=
    entry.elim (.error (.invalidKey kid "malformed key")) .ok
  match block.label with
  | "PRIVATE KEY" => orInvalid ((Rsa.PrivateKey.ofPkcs8 block.contents).map ofPrivate)
  | "RSA PRIVATE KEY" => orInvalid ((Rsa.PrivateKey.ofPkcs1 block.contents).map ofPrivate)
  | "PUBLIC KEY" => orInvalid ((Rsa.PublicKey.ofSpki block.contents).map ofPublic)
  | "RSA PUBLIC KEY" => orInvalid ((Rsa.PublicKey.ofPkcs1 block.contents).map ofPublic)
  | label => .error (.unsupportedLabel kid label)

/-- The entry of a file, with a text of its own in place of all those for broken armour. -/
def read (kid : String) (bytes : List UInt8) : Except KeyError KeyEntry :=
  match Pem.read bytes with
  | some block => ofPem kid block
  | none => .error (.invalidKey kid "malformed armour")

end KeyEntry

end AuthServer
