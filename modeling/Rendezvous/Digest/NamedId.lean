import Rendezvous.Digest.Sha1
import Rendezvous.Text.Quoted

/-!
# Ids made from names

A name becomes an id of thirty-two hexadecimal digits by hashing it under a namespace; version and
variant are written over the bits reserved for them.  The same name always gives the same id, so all
spans of a run share a trace.
-/

namespace Rendezvous.Digest

/-- The namespace of locators. -/
def locators : List UInt8 :=
  [0x6b, 0xa7, 0xb8, 0x11, 0x9d, 0xad, 0x11, 0xd1, 0x80, 0xb4, 0x00, 0xc0, 0x4f, 0xd4, 0x30, 0xc8]

/-- Sixteen bytes of a hash with version five and the standard variant written into them. -/
def stamped (hash : List UInt8) : List UInt8 :=
  (hash.take 16).zipIdx.map fun (b, i) =>
    if i = 6 then (b &&& 0x0f) ||| 0x50 else if i = 8 then (b &&& 0x3f) ||| 0x80 else b

/-- The id of a name under a namespace. -/
def namedId (space : List UInt8) (name : String) : String :=
  String.ofList <| (stamped (sha1 (space ++ name.toUTF8.toList))).flatMap fun b =>
    Text.hexDigits 2 b.toNat

end Rendezvous.Digest
