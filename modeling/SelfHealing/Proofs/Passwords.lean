/-
A stored password is checked against itself.

The digits of the salt and of the digest hold no dollar sign, so the text comes apart again where
it was put together, and the costs are read back as the numbers they were written from.

The three numbers are the costs of the derivation, and whoever verifies a password asks the library
for a digest with the costs that were stored: so a change of the defaults leaves stored passwords
valid.  The library itself is a parameter, and only that it answers alike to the same question is
used of it.
-/
import SelfHealing.Passwords

namespace SelfHealing

/-- The parts of a stored password. -/
def passwordParts (salt digest : List UInt8) : List (List Char) :=
  ["scrypt".toList, "16384".toList, "8".toList, "1".toList, Hex.encode salt, Hex.encode digest]

theorem dollar_not_mem_encode (bytes : List UInt8) : '$' ∉ Hex.encode bytes := by
  intro hmem
  have hbounds := (Hex.encode_bounds bytes '$' hmem).1
  exact absurd hbounds (by decide)

theorem passwordParts_split (salt digest : List UInt8) :
    (['$'].intercalate (passwordParts salt digest)).splitOn '$' = passwordParts salt digest := by
  refine List.splitOn_intercalate '$' ?_ (by simp [passwordParts])
  intro part hpart
  simp only [passwordParts, List.mem_cons, List.not_mem_nil, or_false] at hpart
  rcases hpart with rfl | rfl | rfl | rfl | rfl | rfl
  · decide
  · decide
  · decide
  · decide
  · exact dollar_not_mem_encode _
  · exact dollar_not_mem_encode _

section Hash

variable {scrypt : Scrypt} {salt : List UInt8} {password hashed : String}

theorem hashPassword_eq_some (h : hashPassword scrypt salt password = some hashed) :
    ∃ digest, scrypt (textBytes password) salt 16384 8 1 = some digest ∧
      hashed = String.ofList (['$'].intercalate (passwordParts salt digest)) := by
  unfold hashPassword at h
  simp only [Hex.decode_encode, Option.bind_eq_bind, Option.bind_some, Option.pure_def] at h
  obtain ⟨digest, hdigest, htext⟩ := Option.bind_eq_some_iff.mp h
  refine ⟨digest, hdigest, ?_⟩
  rw [← Option.some.inj htext]
  congr 1
  simp [passwordParts, List.intercalate, List.intersperse]

theorem computedDigest_parts (plain : String) :
    computedDigest scrypt plain "16384".toList "8".toList "1".toList (Hex.encode salt) =
      (scrypt (textBytes plain) salt 16384 8 1).map fun digest =>
        String.ofList (Hex.encode digest) := by
  have hn : intOfText 10 (String.ofList "16384".toList) = some 16384 := by decide
  have hr : intOfText 10 (String.ofList "8".toList) = some 8 := by decide
  have hp : intOfText 10 (String.ofList "1".toList) = some 1 := by decide
  unfold computedDigest
  rw [hn, hr, hp, Hex.decode_encode]
  simp only [Option.bind_eq_bind, Option.bind_some, Option.pure_def, Option.map_eq_bind]
  rfl

theorem compareDigest_encode (bytes bytes' : List UInt8) :
    compareDigest (String.ofList (Hex.encode bytes)) (String.ofList (Hex.encode bytes')) =
      .ok (decide (bytes = bytes')) := by
  have hascii : (Hex.encode bytes ++ Hex.encode bytes').all (fun c => decide (c.toNat < 128)) =
      true := by
    rw [List.all_eq_true]
    intro c hc
    rw [decide_eq_true_eq]
    rcases List.mem_append.mp hc with hc | hc
    · have := (Hex.encode_bounds _ c hc).2
      omega
    · have := (Hex.encode_bounds _ c hc).2
      omega
  unfold compareDigest
  simp only [String.toList_ofList, hascii, if_true]
  congr 1
  refine decide_eq_decide.mpr ⟨fun h => ?_, fun h => by rw [h]⟩
  have hlist := congrArg String.toList h
  rw [String.toList_ofList, String.toList_ofList] at hlist
  exact Hex.encode_injective hlist

/-- **A password is accepted exactly if its digest is that of the one stored**, under the salt of
the one stored: the text that holds the scheme, the costs, the salt and the digest is read back as
it was written. -/
theorem password_round_trip (h : hashPassword scrypt salt password = some hashed)
    (plain : String) : verifyPassword scrypt plain hashed = true ↔
      scrypt (textBytes plain) salt 16384 8 1 = scrypt (textBytes password) salt 16384 8 1 := by
  obtain ⟨digest, hdigest, rfl⟩ := hashPassword_eq_some h
  unfold verifyPassword
  rw [String.toList_ofList, passwordParts_split]
  simp only [passwordParts, if_true]
  rw [computedDigest_parts, hdigest]
  cases hplain : scrypt (textBytes plain) salt 16384 8 1 with
  | none => simp
  | some computed =>
      simp only [Option.map_some]
      rw [compareDigest_encode]
      simp only [decide_eq_true_eq, Option.some.injEq]
      exact eq_comm

/-- The digest of a password is the password. -/
def plainScrypt : Scrypt := fun password _ _ _ _ => some password

/-- The password that was stored, and another one. -/
theorem password_round_trip_other :
    (verifyPassword plainScrypt "secret" "scrypt$16384$8$1$0aff$736563726574" = true ↔
      plainScrypt (textBytes "secret") [10, 255] 16384 8 1 =
        plainScrypt (textBytes "secret") [10, 255] 16384 8 1) ∧
    (verifyPassword plainScrypt "Secret" "scrypt$16384$8$1$0aff$736563726574" = true ↔
      plainScrypt (textBytes "Secret") [10, 255] 16384 8 1 =
        plainScrypt (textBytes "secret") [10, 255] 16384 8 1) := by
  have h : hashPassword plainScrypt [10, 255] "secret" =
      some "scrypt$16384$8$1$0aff$736563726574" := by decide +kernel
  exact ⟨password_round_trip h "secret", password_round_trip h "Secret"⟩

end Hash

end SelfHealing
