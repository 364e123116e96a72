/-
Passwords.

A password is stored as one text, of six parts between dollar signs: the name of the scheme, its
three costs, the salt and the digest.  To check a password its digest is made again, with the costs
and the salt of the text.  Anything that is wrong with the text, or with its costs, is logged, and
the password is taken for a wrong one.
-/
import SelfHealing.Lib.Hex
import SelfHealing.Records
import SelfHealing.Texts

namespace SelfHealing

/-- `hashlib.scrypt`: the digest of a password with a salt and three costs, if it does not raise. -/
abbrev Scrypt := List UInt8 → List UInt8 → Int → Int → Int → Option (List UInt8)

/-- `text.encode()`. -/
def textBytes (text : String) : List UInt8 := text.toUTF8.toList

/-- `hmac.compare_digest`, of two texts. -/
def compareDigest (a b : String) : Except Err Bool :=
  if (a.toList ++ b.toList).all (fun c => decide (c.toNat < 128)) then .ok (decide (a = b))
  else .error ⟨.typeError, "comparing strings with non-ASCII characters is not supported"⟩

section Passwords

variable (scrypt : Scrypt)

/-- `hash_password`, with the salt that was drawn. -/
def hashPassword (salt : List UInt8) (password : String) : Option String := do
  let saltHex := Hex.encode salt
  let saltBytes ← Hex.decode saltHex
  let digest ← scrypt (textBytes password) saltBytes 16384 8 1
  pure (String.ofList ("scrypt$16384$8$1$".toList ++ saltHex ++ '$' :: Hex.encode digest))

/-- The digest made again, with what the text says. -/
def computedDigest (plainPassword : String) (n r p saltHex : List Char) : Option String := do
  let n ← intOfText 10 (String.ofList n)
  let r ← intOfText 10 (String.ofList r)
  let p ← intOfText 10 (String.ofList p)
  let salt ← Hex.decode saltHex
  let digest ← scrypt (textBytes plainPassword) salt n r p
  pure (String.ofList (Hex.encode digest))

def verifyPassword (plainPassword hashedPassword : String) : Bool :=
  match hashedPassword.toList.splitOn '$' with
  | [scheme, n, r, p, saltHex, expected] =>
      if scheme = "scrypt".toList then
        match computedDigest scrypt plainPassword n r p saltHex with
        | some computed =>
            match compareDigest (String.ofList expected) computed with
            | .ok same => same
            | .error _ => false
        | none => false
      else false
  | _ => false

end Passwords

end SelfHealing
