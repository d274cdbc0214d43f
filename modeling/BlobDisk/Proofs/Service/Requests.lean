import BlobDisk.Proofs.Pairs
import BlobDisk.Proofs.Text.Base64
import BlobDisk.Proofs.Text.Pieces
import BlobDisk.Proofs.Text.Utf8
import BlobDisk.Service.Endpoint

/-!
# Requests as they are sent

* `Headers.lookup_set`: what setting a header does to each name;
* `Signature.isValue_sign`: a signature can be the value of a header;
* `Endpoint.exists_signed`: every request can be signed, if its account can be named in a header;
* `Endpoint.Signs`: what a signed request has of the one that was not, with `Endpoint.signs_of_signed`.
-/

namespace BlobDisk

namespace Headers

variable {headers : Headers} {name value n : String}

theorem lookup_set : (headers.set name value).lookup n = if n = name then some value else headers.lookup n := by
  rw [set, List.lookup_append, Pairs.lookup_filter (fun key => decide (key ≠ name)), Pairs.lookup_cons,
    List.lookup_nil]
  by_cases h : n = name <;> simp [h]

theorem isValue_append {a b : String} (ha : isValue a = true) (hb : isValue b = true) :
    isValue (a ++ b) = true := by
  rw [isValue, String.toList_append, List.all_append, Bool.and_eq_true]
  exact ⟨ha, hb⟩

end Headers

/-- A signature can be the value of a header. -/
theorem Signature.isValue_sign (key : Key) (text : String) : Headers.isValue (sign key text) = true := by
  rw [sign, Headers.isValue, String.toList_ofList, List.all_map]
  refine List.all_eq_true.mpr fun b hb => ?_
  obtain ⟨hlow, hhigh⟩ := Base64.visible_encode b hb
  have hchar : (Char.ofNat b.toNat).toNat = b.toNat := Utf8.toNat_ofNat (by omega)
  simp only [Function.comp_apply, hchar, Bool.or_eq_true, Bool.and_eq_true, decide_eq_true_eq]
  omega

namespace Endpoint

variable {e : Endpoint} {date name : String} {q q' : HttpRequest}

/-- The signed request is the request with headers of the four names that signing sets. -/
structure Signs (q q' : HttpRequest) : Prop where
  method : q'.method = q.method
  url : q'.url = q.url
  body : q'.body = q.body
  lookup : ∀ name, name ∉ ["x-ms-date", "x-ms-version", "content-length", "authorization"] →
    q'.headers.lookup name = q.headers.lookup name

theorem signs_of_signed (h : e.signed date q = .ok q') : Signs q q' := by
  simp only [signed, bind_eq_ok, pure_eq_ok] at h
  obtain ⟨signature, -, rfl⟩ := h
  refine ⟨rfl, rfl, rfl, fun name hname => ?_⟩
  simp only [List.mem_cons, List.not_mem_nil, or_false, not_or] at hname
  obtain ⟨hdate, hversion, hlength, hauthorization⟩ := hname
  rw [Headers.lookup_set, if_neg hauthorization]
  split
  · rw [Headers.lookup_set, if_neg hlength, Headers.lookup_set, if_neg hversion, Headers.lookup_set, if_neg hdate]
  · rw [Headers.lookup_set, if_neg hversion, Headers.lookup_set, if_neg hdate]

/-- Every request can be signed for an account that can be named in a header. -/
theorem exists_signed (h : Headers.isValue e.key.account = true) (date : String) (q : HttpRequest) :
    ∃ q', e.signed date q = .ok q' := by
  have hvalue : ∀ url headers, Headers.isValue
      (Signature.authorization e.key q.method.word url headers) = true := fun url headers =>
    Headers.isValue_append (Headers.isValue_append (Headers.isValue_append (by decide) h) (by decide))
      (Signature.isValue_sign ..)
  simp only [signed, headerValue, hvalue, if_true]
  exact ⟨_, rfl⟩

end Endpoint

/-- The service of the sample account. -/
def Sample.endpoint : Endpoint where
  base := {
    scheme := "https".toList
    authority := some ⟨[], [], .domain "account.blob.core.windows.net", none⟩
    path := ['/']
    query := none
    fragment := none }
  key := ⟨"account", [107, 101, 121]⟩

end BlobDisk
