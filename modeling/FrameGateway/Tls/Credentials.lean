import FrameGateway.Fault
import FrameGateway.Tls.Certificate
import FrameGateway.Tls.Pem
import FrameGateway.Tls.SigningKey
/-! What a gateway needs to speak TLS: a chain of certificates, a private key, and, if clients have to
show certificates too, those of the authorities that sign them. Everything comes out of files. -/

namespace FrameGateway

structure TlsFiles where
  certificates : String
  key : String
  clientAuthorities : Option String

namespace TlsFiles

def readCertificates (files : String → Option Bytes) (name : String) : Except Fault (List Bytes) := do
  let some bs := files name | throw (.tls s!"Failed to open {name}: No such file or directory (os error 2)")
  let some chain := Pem.contents? "CERTIFICATE" bs | throw (.tls "Failed to parse certificate")
  if chain.isEmpty then throw (.tls s!"No certificates in {name}")
  return chain

def readKey (files : String → Option Bytes) (name : String) : Except Fault Bytes := do
  let some bs := files name | throw (.tls "Failed to open key file: No such file or directory (os error 2)")
  let some keys := Pem.contents? "PRIVATE KEY" bs | throw (.tls "Failed to parse private key")
  let key :: _ := keys | throw (.tls "No private keys found")
  return key

/-- The chain, once all files have been found good. The certificates of the chain are taken as they
are; those of authorities have to be readable. -/
def load (t : TlsFiles) (files : String → Option Bytes) : Except Fault (List Bytes) := do
  let chain ← readCertificates files t.certificates
  let key ← readKey files t.key
  match t.clientAuthorities with
  | none => pure ()
  | some name =>
    if !(← readCertificates files name).all Certificate.isAuthority then
      throw (.tls "Failed to add client CA cert:")
  if isSigningKey key then return chain else throw (.tls "TLS error:")

end TlsFiles

inductive Wrapping where
  | plain
  | tls
  deriving DecidableEq, Repr

namespace Wrapping

def name : Wrapping → String
  | plain => "plain"
  | tls => "tls"

/-- A handshake that the client does not keep to. -/
def handshakeFailed : Fault := .tls "TLS handshake failed:"

end Wrapping

end FrameGateway
