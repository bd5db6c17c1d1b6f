import Gatehouse.Api.Bearer
import Gatehouse.Proofs.Token.RoundTrip

/-!
# Issued tokens in a header field

A token of visible characters that a request shows is read back as it is (`bearerToken_of_visible`).
Issued tokens are of this kind, so a request can show any of them (`bearerToken_encode`).
-/

namespace Gatehouse

namespace Ascii

/-- Whether a character is one of those that are seen. -/
def IsVisible (c : Char) : Prop := 33 ≤ c.toNat ∧ c.toNat < 127

/-- A property of all visible characters can be checked one by one. -/
theorem IsVisible.forall {p : Char → Prop} (h : ∀ n < 127, 33 ≤ n → p (Char.ofNat n)) {c : Char}
    (hc : IsVisible c) : p c :=
  Char.ofNat_toNat c ▸ h c.toNat hc.2 hc.1

theorem isBlank_of_visible {c : Char} (h : IsVisible c) : isBlank c = false :=
  h.forall (p := fun c => isBlank c = false) (by decide)

theorem trim_of_visible {cs : List Char} (h : ∀ c ∈ cs, IsVisible c) : trim cs = cs := by
  have keep : ∀ ds : List Char, (∀ c ∈ ds, IsVisible c) → ds.dropWhile isBlank = ds := by
    intro ds hd
    cases ds with
    | nil => rfl
    | cons c ds => simp [isBlank_of_visible (hd c List.mem_cons_self)]
  rw [trim, keep cs h, keep cs.reverse fun c hc => h c (List.mem_reverse.1 hc),
    List.reverse_reverse]

end Ascii

namespace Api

open Ascii (IsVisible)

/-- The value of a header field that shows a token. -/
def bearerValue (token : String) : String :=
  String.ofList (bearerWord ++ token.toList)

theorem isReadable_bearerValue {token : String} (h : ∀ c ∈ token.toList, IsVisible c) :
    Http.isReadable (bearerValue token) = true := by
  rw [Http.isReadable, bearerValue, String.toList_ofList, List.all_append, Bool.and_eq_true]
  exact ⟨by decide, List.all_eq_true.2 fun c hc =>
    (h c hc).forall (p := fun c => (c == '\t' || (' ' ≤ c && c ≤ '~')) = true) (by decide)⟩

/-- A token of visible characters is read back. -/
theorem bearerToken_of_visible {r : Http.Request} {token : String}
    (hr : r.header? "Authorization" = some (bearerValue token)) (hne : token.toList ≠ [])
    (h : ∀ c ∈ token.toList, IsVisible c) : bearerToken r = .ok token := by
  have hp : bearerWord.isPrefixOf (bearerWord ++ token.toList) = true :=
    List.isPrefixOf_iff_prefix.2 (List.prefix_append _ _)
  rw [bearerToken, hr, Option.filter_some, if_pos (isReadable_bearerValue h)]
  simp only [bearerValue, String.toList_ofList, List.drop_left, Ascii.trim_of_visible h, hp, hne,
    ne_eq, not_false_eq_true, and_self, if_true, String.ofList_toList]

/-- An issued token is read back if nothing but it is shown. -/
theorem bearerToken_encode {r : Http.Request} {i : TokenIssuer} {c : Claims}
    (hr : r.headers = [("Authorization", bearerValue (i.encode c))]) :
    bearerToken r = .ok (i.encode c) := by
  have hfold : Ascii.equalFold "Authorization" "Authorization" = true := by decide
  refine bearerToken_of_visible (by simp [Http.Request.header?, hr, hfold]) ?_ fun d hd => ?_
  · simp [TokenIssuer.encode, Token.sign, Token.signedPart]
  · simp only [TokenIssuer.encode, String.toList_ofList, List.mem_map] at hd
    obtain ⟨o, ho, rfl⟩ := hd
    have hv := Token.visible_of_mem_sign ho
    rwa [Ascii.IsVisible, Bytes.toNat_ofNat_of_lt (by omega)]

end Api

end Gatehouse
