import MessageTunnel.Pem.Section
import MessageTunnel.Quic.StartError
import MessageTunnel.Storage.FileSystem
set_option autoImplicit false

namespace MessageTunnel.Quic.Certificates

def isPem (content : Bytes) : Bool := (Pem.ascii "-----BEGIN").isPrefixOf content

def ofContent (content : Bytes) : Except StartError (List Bytes) := do
  if !isPem content then return [content]
  let sections ← (Pem.sections content).mapError fun e => ⟨.credentials, e.message⟩
  let certificates :=
    (sections.filter fun s => s.label = Pem.certificateLabel).map Pem.Section.content
  if certificates.isEmpty then throw ⟨.credentials, "no certificate found in PEM file"⟩
  return certificates

def load (fs : FileSystem) (path : String) : Except StartError (List Bytes) := do
  ofContent (← (fs.read path).mapError fun e => ⟨.credentials, e.message⟩)

end MessageTunnel.Quic.Certificates
