import BlobDisk.Proofs.Mount.Addressing
import BlobDisk.Proofs.Service.Requests
import BlobDisk.Proofs.Url.Extension

/-!
# What requests for blobs name

The path of a blob is put behind the address of an endpoint as it is, and the result is read as an address. There
a number sign in the name of a blob starts a fragment, which no request names.

* `Endpoint.Extendable`: the endpoints behind whose address there is room for a path;
* `BlobPath.sent`, `BlobPath.Literal`: the part of a blob before a fragment, and the blobs of which that part
  stands for itself in an address;
* `Endpoint.exists_blobUrl`: the address of such a blob;
* `Endpoint.target_eq_iff`: requests for two of them name one target just if they differ in the fragment only;
* `Endpoint.shared_target`: two blobs for which requests name one target.
-/

namespace BlobDisk

namespace BlobPath

/-- The name up to a number sign. -/
def front (b : BlobPath) : List Char := b.name.toList.takeWhile (· ≠ '#')

/-- The name from a number sign on. -/
def trailer (b : BlobPath) : List Char := b.name.toList.dropWhile (· ≠ '#')

/-- The blob without what follows a number sign in its name. -/
def sent (b : BlobPath) : BlobPath := ⟨b.container, String.ofList b.front⟩

/-- The container and the name up to a number sign stand for themselves in an address. -/
def Literal (b : BlobPath) : Prop := Url.Ending b.container.toList b.front b.trailer

instance (b : BlobPath) : Decidable b.Literal :=
  inferInstanceAs (Decidable (Url.Ending b.container.toList b.front b.trailer))

theorem front_append_trailer (b : BlobPath) : b.front ++ b.trailer = b.name.toList :=
  List.takeWhile_append_dropWhile

/-- A blob without a number sign in its name is sent as it is. -/
theorem sent_of_notMem {b : BlobPath} (h : '#' ∉ b.name.toList) : b.sent = b := by
  have hfront : b.front = b.name.toList := by
    rw [front, ← List.append_nil b.name.toList, List.takeWhile_append_of_pos]
    · rfl
    · exact fun c hc => decide_eq_true fun hcd => h (hcd ▸ hc)
  rw [sent, hfront, String.ofList_toList]

end BlobPath

namespace Endpoint

variable {e : Endpoint} {b b' : BlobPath} {c : Char} {back : List Char}

/-- The address of the endpoint was read, always names a host and has no fragment. -/
structure Extendable (e : Endpoint) : Prop where
  read : ∃ text, Url.parse text = .ok e.base
  hosted : Url.Hosted e.base.scheme
  fragment : e.base.fragment = none

/-! ## Addresses -/

theorem trimEnd_append (front : List Char) (hc : c ∈ back) (h : c ≠ '/') :
    trimEnd (front ++ back) = front ++ trimEnd back := by
  rw [trimEnd, List.reverse_append, Url.dropWhile_append_of_mem (List.mem_reverse.mpr hc) (decide_eq_false h),
    List.reverse_append, List.reverse_reverse]
  rfl

theorem mem_trimEnd (hc : c ∈ back) (h : c ≠ '/') : c ∈ trimEnd back :=
  List.mem_reverse.mpr (Url.mem_dropWhile (List.mem_reverse.mpr hc) (decide_eq_false h))

theorem mem_of_mem_trimEnd (hc : c ∈ trimEnd back) : c ∈ back :=
  List.mem_reverse.mp ((List.dropWhile_suffix _).subset (List.mem_reverse.mp hc))

/-- The text of a path behind an address. -/
theorem toList_text_eq_joined (hb : b.Addressable) :
    '/' :: b.text.toList.dropWhile (· = '/') = Url.joined [b.container.toList, b.front] ++ b.trailer := by
  obtain ⟨c, rest, hcontainer⟩ := List.exists_cons_of_ne_nil (mt String.toList_eq_nil_iff.mp hb.container_ne)
  have hslash : c ≠ '/' := fun h => hb.container_slash (hcontainer ▸ h ▸ List.mem_cons_self)
  rw [b.toList_text, ← b.front_append_trailer, hcontainer, Url.joined_pair, List.dropWhile_cons,
    if_pos (by decide), List.cons_append, List.dropWhile_cons_of_neg (by simpa using hslash)]
  simp only [List.cons_append, List.append_assoc]

/-- The address of a blob is that of the endpoint with two more pieces and a fragment, or no such blob has an
address. -/
theorem exists_blobUrl (he : e.Extendable) (pairs : List (String × String)) :
    (∀ b : BlobPath, b.Addressable → b.Literal → ∃ err, e.blobUrl b pairs = .error err) ∨
    ∃ u : Url, ∀ b : BlobPath, b.Addressable → b.Literal →
      e.blobUrl b pairs = .ok ((u.extend b.container.toList b.front b.trailer).withPairs pairs) := by
  obtain ⟨text, hread⟩ := he.read
  obtain ⟨rest, htext, hmark, c, hc, hinner⟩ := Url.exists_text hread he.hosted he.fragment
  have hslash : c ≠ '/' := fun h => by
    rw [h] at hinner
    cases hinner
  have htrim : trimEnd e.base.text = e.base.scheme ++ ':' :: trimEnd rest := by
    rw [htext, ← List.singleton_append, ← List.append_assoc, trimEnd_append _ hc hslash, List.append_assoc]
    rfl
  have hparse : ∀ b : BlobPath, b.Addressable →
      Url.parse (trimEnd e.base.text ++ '/' :: b.text.toList.dropWhile (· = '/')) =
        Url.parse (e.base.scheme ++ ':' ::
          (trimEnd rest ++ (Url.joined [b.container.toList, b.front] ++ b.trailer))) := by
    intro b hb
    rw [toList_text_eq_joined hb, htrim, List.append_assoc, List.cons_append]
  rcases he.hosted.exists_parse (fun h => hmark (mem_of_mem_trimEnd h)) ⟨c, mem_trimEnd hc hslash, hinner⟩ with
    ⟨fault, hfault⟩ | ⟨u, hu⟩
  · refine .inl fun b hb hliteral => ?_
    rw [blobUrl, url, hparse b hb, hfault _ _ _ hliteral]
    exact ⟨_, rfl⟩
  · refine .inr ⟨u, fun b hb hliteral => ?_⟩
    rw [blobUrl, url, hparse b hb, hu _ _ _ hliteral]

/-- Two blobs that have paths, and of which what is sent stands for itself, have addresses, or neither has. The
addresses have the same target just if the same is sent of both: of names without a number sign, just if the
blobs are the same. -/
theorem target_eq_iff (he : e.Extendable) (hb : BlobPath.parse b.text = .ok b)
    (hb' : BlobPath.parse b'.text = .ok b') (hliteral : b.Literal) (hliteral' : b'.Literal)
    (pairs : List (String × String)) :
    (∃ u u', e.blobUrl b pairs = .ok u ∧ e.blobUrl b' pairs = .ok u' ∧ (u.target = u'.target ↔ b.sent = b'.sent)) ∨
    ∃ err err', e.blobUrl b pairs = .error err ∧ e.blobUrl b' pairs = .error err' := by
  have hpath := (BlobPath.parse_eq_ok_iff.mp hb).2
  have hpath' := (BlobPath.parse_eq_ok_iff.mp hb').2
  rcases exists_blobUrl he pairs with hnone | ⟨u, hu⟩
  · obtain ⟨err, herr⟩ := hnone b hpath hliteral
    obtain ⟨err', herr'⟩ := hnone b' hpath' hliteral'
    exact .inr ⟨err, err', herr, herr'⟩
  · refine .inl ⟨_, _, hu b hpath hliteral, hu b' hpath' hliteral', ?_⟩
    rw [Url.target_extend_eq_iff hliteral hliteral', String.toList_inj, BlobPath.sent, BlobPath.sent,
      BlobPath.mk.injEq, String.ofList_inj]

end Endpoint

/-! ## Blobs of one container -/

namespace Sample

theorem extendable_endpoint : endpoint.Extendable where
  read := ⟨"https://account.blob.core.windows.net/".toList, eq_ok_of_toOption (by decide +kernel)⟩
  hosted := by decide
  fragment := rfl

theorem literal_blob : blob.Literal := by decide +kernel

/-- A blob with a space and a letter beyond ASCII in its name. -/
def spaced : BlobPath := ⟨"dysks", "Müllers disk.vhd"⟩

theorem literal_spaced : spaced.Literal := by decide +kernel

/-- A blob with a number sign in its name. -/
def numbered : BlobPath := ⟨"dysks", "disk#1"⟩

end Sample

namespace Endpoint

/-- The requests that lease two blobs of one container. -/
theorem target_ne_of_spaced : ∃ u u', Sample.endpoint.blobUrl Sample.spaced [("comp", "lease")] = .ok u ∧
    Sample.endpoint.blobUrl Sample.blob [("comp", "lease")] = .ok u' ∧ u.target ≠ u'.target := by
  have hurl : (Sample.endpoint.blobUrl Sample.blob [("comp", "lease")]).toOption.isSome = true := by decide +kernel
  rcases target_eq_iff Sample.extendable_endpoint (Sample.eq_ok_of_toOption (by decide))
    (Sample.eq_ok_of_toOption (by decide)) Sample.literal_spaced Sample.literal_blob [("comp", "lease")] with
    ⟨u, u', hu, hu', hiff⟩ | ⟨_, err, _, herr⟩
  · refine ⟨u, u', hu, hu', fun htarget => ?_⟩
    have hsent := hiff.mp htarget
    rw [BlobPath.sent_of_notMem (by decide), BlobPath.sent_of_notMem (by decide)] at hsent
    exact absurd hsent (by decide)
  · rw [herr] at hurl
    cases hurl

/-- What is asked about a blob with a number sign in its name is asked about another blob. -/
theorem shared_target : Sample.numbered ≠ Sample.blob ∧
    BlobPath.parse Sample.numbered.text = .ok Sample.numbered ∧ BlobPath.parse Sample.blob.text = .ok Sample.blob ∧
    ∃ u u', Sample.endpoint.blobUrl Sample.numbered [] = .ok u ∧ Sample.endpoint.blobUrl Sample.blob [] = .ok u' ∧
      u.target = u'.target := by
  refine ⟨by decide, Sample.eq_ok_of_toOption (by decide), Sample.eq_ok_of_toOption (by decide),
    { Sample.endpoint.base with path := "/dysks/disk".toList, fragment := some ['1'] },
    { Sample.endpoint.base with path := "/dysks/disk".toList }, Sample.eq_ok_of_toOption ?_,
    Sample.eq_ok_of_toOption ?_, rfl⟩
  · decide +kernel
  · decide +kernel

end Endpoint

end BlobDisk
