import CloudGrant.Inventory.Identity
import CloudGrant.Proofs.Json.Reading

/-!
# The identity header

A caller without an identity of its own is given one: a JSON document with its account and its
organisation, in base64. Nothing is lost on either of the two ways down, since each can be gone back
(`parse_identityDocument`, `Text.Base64.decode?_encode`). So the header tells accounts and organisations
apart (`synthesizedIdentity_faithful`).
-/

namespace CloudGrant

namespace Text.Base64

/-! ## The form of base64 -/

/-- Whether a character is a letter of base64. -/
def isLetter (c : Char) : Bool := c.isAlphanum || c == '+' || c == '/'

/-- The form of so many bytes in base64: groups of four characters, all of them letters but the padding
at the end, which fills up the last group. -/
structure IsForm (n : Nat) (s : List Char) : Prop where
  length : s.length = 4 * ((n + 2) / 3)
  letters : ∃ letters, s = letters ++ List.replicate ((3 - n % 3) % 3) '=' ∧
    ∀ c ∈ letters, isLetter c = true

theorem isLetter_letter : ∀ n : Nat, n < 64 → isLetter (letter n) = true := by decide

/-- Three bytes are four letters and no padding. -/
theorem IsForm.cons {n : Nat} {s : List Char} (h : IsForm n s) {w x y z : Nat} (hw : w < 64)
    (hx : x < 64) (hy : y < 64) (hz : z < 64) :
    IsForm (n + 3) (letter w :: letter x :: letter y :: letter z :: s) := by
  obtain ⟨hlength, letters, rfl, hletters⟩ := h
  refine ⟨?_, letter w :: letter x :: letter y :: letter z :: letters, ?_, ?_⟩
  · simp only [List.length_cons] at hlength ⊢
    omega
  · rw [Nat.add_mod_right]
    rfl
  · simp only [List.forall_mem_cons]
    exact ⟨isLetter_letter w hw, isLetter_letter x hx, isLetter_letter y hy, isLetter_letter z hz,
      hletters⟩

theorem isForm_encode : ∀ s : List UInt8, IsForm s.length (encode s)
  | [] => ⟨rfl, [], rfl, by simp⟩
  | [a] => by
    have ha := a.toNat_lt
    rw [encode]
    refine ⟨by simp, [letter (a.toNat / 4), letter (a.toNat % 4 * 16)], rfl, ?_⟩
    simp only [List.forall_mem_cons]
    exact ⟨isLetter_letter _ (by omega), isLetter_letter _ (by omega), by simp⟩
  | [a, b] => by
    have ha := a.toNat_lt
    have hb := b.toNat_lt
    rw [encode]
    refine ⟨by simp, [letter (a.toNat / 4), letter (a.toNat % 4 * 16 + b.toNat / 16),
      letter (b.toNat % 16 * 4)], rfl, ?_⟩
    simp only [List.forall_mem_cons]
    exact ⟨isLetter_letter _ (by omega), isLetter_letter _ (by omega), isLetter_letter _ (by omega),
      by simp⟩
  | a :: b :: c :: rest => by
    have ha := a.toNat_lt
    have hb := b.toNat_lt
    have hc := c.toNat_lt
    exact (isForm_encode rest).cons (by omega) (by omega) (by omega) (by omega)

end Text.Base64

namespace Inventory

/-! ## The document -/

/-- The document is read back as it was written, whatever the texts in it are. -/
theorem parse_identityDocument (account orgId : String) :
    Json.Value.parse (identityDocument account orgId).toBytes =
      .ok (identityDocument account orgId) := by
  have hkeys : ["account_number", "internal", "org_id", "user"].Pairwise (· < ·) := by decide
  refine Json.Reads.decode (Json.reads_value_object (List.pairwise_singleton _ _) ?_)
  simp only [List.forall_mem_cons]
  refine ⟨Json.reads_value_object (ascending_iff.mpr hkeys) ?_, by simp⟩
  simp only [List.forall_mem_cons]
  refine ⟨Json.reads_value_text _ _, ?_, Json.reads_value_text _ _, ?_, by simp⟩
  · refine Json.reads_value_object (List.pairwise_singleton _ _) ?_
    simp only [List.forall_mem_cons]
    exact ⟨Json.reads_value_text _ _, by simp⟩
  · refine Json.reads_value_object (List.pairwise_singleton _ _) ?_
    simp only [List.forall_mem_cons]
    exact ⟨Json.reads_value_bool _ _, by simp⟩

/-- The texts of the document can be read off it. -/
theorem eq_of_identityDocument {account account' orgId orgId' : String}
    (h : identityDocument account orgId = identityDocument account' orgId') :
    account = account' ∧ orgId = orgId' := by
  have hread : ∀ account orgId, ["account_number", "org_id"].map (fun name =>
      ((identityDocument account orgId).follow ["identity", name]).bind Json.Value.text?) =
        [some account, some orgId] := fun _ _ => rfl
  have hboth := hread account orgId
  rw [h, hread] at hboth
  simpa [eq_comm] using hboth

/-- **Callers with one identity header are one caller.** -/
theorem eq_of_synthesizedIdentity {account account' orgId orgId' : String}
    (h : synthesizedIdentity account orgId = synthesizedIdentity account' orgId') :
    account = account' ∧ orgId = orgId' := by
  have hletters := congrArg Text.Base64.decode? (String.ofList_injective h)
  rw [Text.Base64.decode?_encode, Text.Base64.decode?_encode] at hletters
  have hparse := parse_identityDocument account orgId
  rw [Option.some.inj hletters, parse_identityDocument] at hparse
  exact eq_of_identityDocument (Except.ok.inj hparse).symm

theorem identityDocument_toBytes_ne_nil (account orgId : String) :
    (identityDocument account orgId).toBytes ≠ [] := by
  intro hnil
  have hparse := parse_identityDocument account orgId
  rw [hnil] at hparse
  cases hparse

/-- **The identity header says who the caller is.** It is not empty, it is base64, and what it stands for
is a document in JSON: that of an administrator of the organisation, with the account. So callers that
differ in either have different headers. -/
theorem synthesizedIdentity_faithful (account orgId : String) :
    synthesizedIdentity account orgId ≠ "" ∧
    (∃ bytes,
      Text.Base64.IsForm bytes.length (synthesizedIdentity account orgId).toList ∧
      Text.Base64.decode? (synthesizedIdentity account orgId).toList = some bytes ∧
      Json.Value.parse bytes = .ok (.object
        [("identity", .object
          [ ("account_number", .text account)
          , ("internal", .object [("org_id", .text orgId)])
          , ("org_id", .text orgId)
          , ("user", .object [("is_org_admin", .bool true)]) ])])) ∧
    ∀ account' orgId', synthesizedIdentity account orgId = synthesizedIdentity account' orgId' ↔
      account = account' ∧ orgId = orgId' := by
  have hletters : (synthesizedIdentity account orgId).toList =
      Text.Base64.encode (identityDocument account orgId).toBytes := String.toList_ofList
  have hform := Text.Base64.isForm_encode (identityDocument account orgId).toBytes
  refine ⟨?_, ⟨_, hletters ▸ hform, ?_, parse_identityDocument account orgId⟩, ?_⟩
  · intro hempty
    have hlength := hform.length
    rw [← hletters, hempty] at hlength
    have hbytes := List.length_pos_iff.mpr (identityDocument_toBytes_ne_nil account orgId)
    simp only [String.toList_empty, List.length_nil] at hlength
    omega
  · rw [hletters, Text.Base64.decode?_encode]
  · intro account' orgId'
    refine ⟨eq_of_synthesizedIdentity, ?_⟩
    rintro ⟨rfl, rfl⟩
    rfl

end Inventory

end CloudGrant
