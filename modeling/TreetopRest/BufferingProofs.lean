import TreetopRest.Lib.BoundedBufferProofs
import TreetopRest.BundleFetcherModel
import TreetopRest.UploadModel
import TreetopRest.SampleCrates

/-! # Bundles are buffered within their limit

    Two loops read the archive of a bundle, one from an upload and one from a
    download.  Both are the bounded receive phase, with vectors of a 64-bit
    host: they hand over exactly the bytes they were sent or fail with the
    size error, before the store is touched (`buffering_exact`).  The one
    exception is an allocation that is REFUSED: beyond `isize::MAX` bytes the
    vector panics, below it the allocator may decline and the process aborts.
    The declared length alone can bring it about (`oversized_limit_stops`). -/

namespace TreetopBuffering

open FallibleState BoundedBuffer
open TreetopErrors TreetopCrates TreetopMetadata TreetopWire TreetopStore
open TreetopRequest TreetopFetcher TreetopUpload TreetopBundleFetcher TreetopSample

variable {X : Crates}

/-! ## Vectors of the host -/

/-- Which allocations a 64-bit host grants: none beyond `isize::MAX` bytes, and
    of the others those the allocator has memory for. -/
structure Allocator where
  grants : Nat → Nat → Bool
  grants_nothing : grants 0 0 = true
  grants_le : ∀ held wanted, grants held wanted = true → wanted ≤ 2 ^ 63 - 1

/-- How a full vector grows; only that it is enough is promised. -/
structure Vectors extends Allocator where
  grow : Nat → Nat → Nat
  enough : ∀ capacity required, required ≤ grow capacity required

/-- A 64-bit host, with its `usize::MAX`. -/
def host (G : Vectors) : Machine where
  maxWord := 2 ^ 64 - 1
  grants := G.grants
  grow := G.grow
  grants_nothing := G.grants_nothing
  grants_lt := by
    intro held wanted h
    have hle : wanted ≤ 2 ^ 63 - 1 := G.grants_le held wanted h
    omega
  enough := G.enough

/-- Growth by doubling, from eight bytes on. -/
def doubling (A : Allocator) : Vectors where
  toAllocator := A
  grow capacity required := max (max (2 * capacity) required) 8
  enough := by
    intro capacity required
    omega

/-- With doubling, a limit is roomy if twice as much is granted. -/
theorem roomy_doubling {A : Allocator} {limit : Nat}
    (h : ∀ held wanted, wanted ≤ max (2 * limit) 8 → A.grants held wanted = true) :
    Roomy (host (doubling A)) limit where
  reserve := by
    intro n hn
    refine h 0 n ?_
    omega
  grow := by
    intro capacity required hfull hfits
    refine h capacity (max (max (2 * capacity) required) 8) ?_
    omega

/-! ## The two receive phases -/

def uploadLimit (config : BundleRuntimeConfig X) : Nat :=
  min config.maxCompressedBytes config.maxRequestBytes

/-- The declared length of an upload, if there is one that can be read. -/
def declaredSize (headers : HeaderMap) : Option Nat :=
  ((headers.get "content-length").bind HeaderValue.toStr).bind fun value => parseUsize value.toList

/-- `upload_bundle` from its check of the declared length to its last chunk. -/
def receiveUpload (G : Vectors) (config : BundleRuntimeConfig X) (headers : HeaderMap)
    (payload : List (Except String (List UInt8))) : Received ServiceError UInt8 :=
  receive (host G) (uploadLimit config) (uploadTooLarge (uploadLimit config))
    ServiceError.invalidBundle (declaredSize headers) payload

/-- `check_and_update` from its check of the declared length to its last chunk. -/
def receiveDownload (G : Vectors) (f : BundleFetcher X) (response : BundleResponse) :
    Received FetchError UInt8 :=
  receive (host G) f.limits.maxCompressedBytes f.sizeLimitError FetchError.request
    response.contentLength response.stream

/-- The vectors of an upload, the reserved one first. -/
def uploadBuffers (G : Vectors) (config : BundleRuntimeConfig X) (headers : HeaderMap)
    (payload : List (Except String (List UInt8))) : List (Buffer (host G) UInt8) :=
  arrays (host G) (uploadLimit config) (declaredSize headers) payload

/-- The vectors of a download, the reserved one first. -/
def downloadBuffers (G : Vectors) (f : BundleFetcher X) (response : BundleResponse) :
    List (Buffer (host G) UInt8) :=
  arrays (host G) f.limits.maxCompressedBytes response.contentLength response.stream

/-! ## The phases in their handlers -/

/-- The loop of an upload is the simple loop. -/
theorem readPayload_eq_collect (limit : Nat) (payload : List (Except String (List UInt8))) :
    ∀ bytes, readPayload limit payload bytes
      = collect limit (uploadTooLarge limit) ServiceError.invalidBundle payload bytes := by
  induction payload with
  | nil =>
      intro bytes
      rfl
  | cons item rest ih =>
      intro bytes
      cases item with
      | error e => rfl
      | ok chunk =>
          rw [readPayload, collect, ih]

/-- The media types of a bundle upload. -/
def BundleMediaType (headers : HeaderMap) : Prop :=
  headers.contentType = "application/gzip".toList
    ∨ headers.contentType = "application/x-gzip".toList

/-- The archive of an upload is what its receive phase came to. -/
theorem receiveUpload_agrees (G : Vectors) (config : BundleRuntimeConfig X)
    {headers : HeaderMap} (htype : BundleMediaType headers)
    (payload : List (Except String (List UInt8))) :
    (receiveUpload G config headers payload).Agrees (archiveOfPayload config headers payload) := by
  have hgate : ¬ (headers.contentType ≠ "application/gzip".toList
      ∧ headers.contentType ≠ "application/x-gzip".toList) := by
    rintro ⟨hgzip, hxgzip⟩
    exact htype.elim hgzip hxgzip
  have harchive : archiveOfPayload config headers payload
      = if (declaredSize headers).any (fun n => uploadLimit config < n) then
          .error (uploadTooLarge (uploadLimit config))
        else collect (uploadLimit config) (uploadTooLarge (uploadLimit config))
          ServiceError.invalidBundle payload [] := by
    rw [archiveOfPayload, if_neg hgate, ← readPayload_eq_collect]
    by_cases hany : (declaredSize headers).any (fun n => uploadLimit config < n) = true
    · rw [if_pos hany]
      show (if (declaredSize headers).any (fun n => uploadLimit config < n) = true then _
        else _) = _
      rw [if_pos hany]
      rfl
    · rw [if_neg hany]
      show (if (declaredSize headers).any (fun n => uploadLimit config < n) = true then _
        else _) = _
      rw [if_neg hany]
      rfl
  rw [harchive]
  exact receive_agrees (declaredSize headers) payload

/-- The download of a success is what its receive phase came to, with the
    validators of the response. -/
theorem receiveDownload_agrees (G : Vectors) (f : BundleFetcher X) {response : BundleResponse}
    (hchanged : response.status ≠ notModified) (hsuccess : isSuccess response.status = true) :
    ∃ x, (receiveDownload G f response).Agrees x
      ∧ f.download (.ok response) = x.map fun bytes => some ⟨bytes,
          ⟨response.etag.bind HeaderValue.toStr,
            response.lastModified.bind HeaderValue.toStr⟩⟩ := by
  refine ⟨_, receive_agrees response.contentLength response.stream, ?_⟩
  have hfailed : ¬ (!isSuccess response.status) = true := by
    rw [hsuccess]
    decide
  rw [BundleFetcher.download, ← BundleFetcher.readStream_eq_collect]
  show (if response.status = notModified then _ else _) = _
  rw [if_neg hchanged]
  show (if (!isSuccess response.status) = true then _ else _) = _
  rw [if_neg hfailed]
  by_cases hany : response.contentLength.any (fun n => f.limits.maxCompressedBytes < n) = true
  · rw [if_pos hany, if_pos hany]
    rfl
  · rw [if_neg hany, if_neg hany]
    cases f.readStream response.stream [] with
    | error e => rfl
    | ok bytes => rfl

/-- An upload that passed its check goes on with the bytes it was handed, and
    ends with the error of its receive phase, the store as it was. -/
theorem upload_received (G : Vectors) (config : BundleRuntimeConfig X)
    (engineMode : Option BundleEngineMode) {headers : HeaderMap}
    (htype : BundleMediaType headers) (payload : List (Except String (List UInt8)))
    (clock : BundleClock) (taskFailure : Option String) :
    (∀ bytes captured, receiveUpload G config headers payload = .handed bytes →
        (Upload.bundle headers payload clock taskFailure).prepare config engineMode captured
          = prepareArchive config engineMode clock taskFailure bytes captured)
      ∧ ∀ e, receiveUpload G config headers payload = .failed e →
        ∀ now atCheck shared captured,
          (readStore atCheck).bind (Upload.bundle headers payload clock taskFailure).check
            = .ok captured →
          (Upload.bundle headers payload clock taskFailure).handle config engineMode now atCheck
            shared = (.error e, shared) := by
  have hagrees := receiveUpload_agrees G config htype payload
  constructor
  · intro bytes captured hhanded
    rw [hhanded] at hagrees
    have harchive : archiveOfPayload config headers payload = .ok bytes := hagrees
    rw [Upload.prepare, harchive]
    rfl
  · intro e hfailed now atCheck shared captured hcheck
    rw [hfailed] at hagrees
    have harchive : archiveOfPayload config headers payload = .error e := hagrees
    rw [Upload.handle, hcheck]
    dsimp only
    rw [Upload.prepare, harchive]
    rfl

/-- A poll that is answered with a success goes on with the bytes it was
    handed, and ends with the error of its receive phase, its fetcher and the
    store as they were. -/
theorem download_received (G : Vectors) (f : BundleFetcher X) {response : BundleResponse}
    (hchanged : response.status ≠ notModified) (hsuccess : isSuccess response.status = true) :
    (∀ bytes, receiveDownload G f response = .handed bytes →
        f.download (.ok response) = .ok (some ⟨bytes, ⟨response.etag.bind HeaderValue.toStr,
          response.lastModified.bind HeaderValue.toStr⟩⟩))
      ∧ ∀ e, receiveDownload G f response = .failed e →
        ∀ env shared, env.get f.validators = .ok response →
          f.checkAndUpdate env shared = (.error e, f, shared) := by
  obtain ⟨x, hagrees, hdownload⟩ := receiveDownload_agrees G f hchanged hsuccess
  constructor
  · intro bytes hhanded
    rw [hhanded] at hagrees
    rw [hdownload, show x = .ok bytes from hagrees]
    rfl
  · intro e hfailed env shared hget
    rw [hfailed] at hagrees
    rw [BundleFetcher.checkAndUpdate, BundleFetcher.fetch, hget, hdownload,
      show x = .error e from hagrees]
    rfl

/-! ## Exactness -/

/-- No vector holds more than the limit, and none is reserved for more. -/
def KeepsTo {G : Vectors} (limit : Nat) (buffers : List (Buffer (host G) UInt8)) : Prop :=
  (∀ b ∈ buffers.head?, b.capacity ≤ limit) ∧ ∀ b ∈ buffers, b.elems.length ≤ limit

/-- **BUFFERING**: both loops are exact for their limit, keep to it at every
    step of any stream, and are not misled by the saturating sum; an upload or
    a poll goes on with just the bytes handed over, and after the error of its
    loop the store is as it was. -/
theorem buffering_exact (G : Vectors) (config : BundleRuntimeConfig X) (headers : HeaderMap)
    (f : BundleFetcher X) (response : BundleResponse) :
    (ExactlyBounded host (uploadLimit config) (declaredSize headers)
          (uploadTooLarge (uploadLimit config))
          (fun G chunks => receiveUpload G config headers (chunks.map .ok))
        ∧ (∀ payload, KeepsTo (uploadLimit config) (uploadBuffers G config headers payload))
        ∧ (BundleMediaType headers → ∀ payload engineMode clock taskFailure,
          (∀ bytes captured, receiveUpload G config headers payload = .handed bytes →
            (Upload.bundle headers payload clock taskFailure).prepare config engineMode captured
              = prepareArchive config engineMode clock taskFailure bytes captured)
          ∧ ∀ e, receiveUpload G config headers payload = .failed e →
            ∀ now atCheck shared captured,
              (readStore atCheck).bind (Upload.bundle headers payload clock taskFailure).check
                = .ok captured →
              (Upload.bundle headers payload clock taskFailure).handle config engineMode now
                atCheck shared = (.error e, shared)))
      ∧ (ExactlyBounded host f.limits.maxCompressedBytes response.contentLength
          f.sizeLimitError
          (fun G chunks => receiveDownload G f { response with stream := chunks.map .ok })
        ∧ (KeepsTo f.limits.maxCompressedBytes (downloadBuffers G f response))
        ∧ (response.status ≠ notModified → isSuccess response.status = true →
          (∀ bytes, receiveDownload G f response = .handed bytes →
            f.download (.ok response) = .ok (some ⟨bytes, ⟨response.etag.bind HeaderValue.toStr,
              response.lastModified.bind HeaderValue.toStr⟩⟩))
          ∧ ∀ e, receiveDownload G f response = .failed e →
            ∀ env shared, env.get f.validators = .ok response →
              f.checkAndUpdate env shared = (.error e, f, shared)))
      ∧ (∀ limit a b, limit < (host G).maxWord →
        (limit < (host G).saturatingAdd a b ↔ limit < a + b))
      ∧ ∀ (A : Allocator) limit,
        (∀ held wanted, wanted ≤ max (2 * limit) 8 → A.grants held wanted = true) →
        Roomy (host (doubling A)) limit := by
  refine ⟨⟨receive_exactlyBounded host _, fun payload => arrays_le _ payload, ?_⟩,
    ⟨receive_exactlyBounded host _, arrays_le _ response.stream, download_received G f⟩, ?_,
    fun _ _ hgrants => roomy_doubling hgrants⟩
  · intro htype payload engineMode clock taskFailure
    exact upload_received G config engineMode htype payload clock taskFailure
  · intro limit a b hlimit
    exact lt_saturatingAdd_iff hlimit a b

/-- Limits larger than any vector. -/
def oversizedConfig : BundleRuntimeConfig small := ⟨(), (), 2 ^ 63, 2 ^ 63, 2 ^ 63⟩

/-- An upload that declares as much. -/
def oversizedHeaders : HeaderMap := [
  ("content-type", ⟨Text.asBytes "application/gzip".toList⟩),
  ("content-length", ⟨Text.asBytes "9223372036854775808".toList⟩)]

/-- Within such a limit, a declared length is accepted that no vector can be
    reserved for, on any host. -/
theorem oversized_limit_stops :
    declaredSize oversizedHeaders = some (2 ^ 63) ∧ uploadLimit oversizedConfig = 2 ^ 63
      ∧ BundleMediaType oversizedHeaders
      ∧ ∀ G, receiveUpload G oversizedConfig oversizedHeaders [] = .stopped := by
  have hdeclared : declaredSize oversizedHeaders = some (2 ^ 63) := by decide +kernel
  refine ⟨hdeclared, rfl, Or.inl (by decide +kernel), ?_⟩
  intro G
  have hrefused : ¬ (host G).grants 0 (2 ^ 63) = true := by
    intro h
    exact absurd (G.grants_le 0 _ h) (by decide)
  have hwithin : ¬ (some (2 ^ 63)).any (fun n => uploadLimit oversizedConfig < n) = true := by
    decide
  rw [receiveUpload, hdeclared, receive, if_neg hwithin, Option.getD_some,
    Buffer.withCapacity, dif_neg hrefused]

end TreetopBuffering
