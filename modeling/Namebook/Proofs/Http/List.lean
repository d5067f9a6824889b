import Namebook.Http.Router
import Namebook.Proofs.Course.Snapshot
import Namebook.Proofs.Directory.Counting
import Namebook.Proofs.Directory.Reading
import Namebook.Proofs.Page
import Namebook.Proofs.Text.Blank
import Namebook.Proofs.Text.Decimal

/-!
# When a list is refused

A list is refused for two reasons only: the source that it asks for is none, which is seen before
anything is done, or the store fails while there is no snapshot yet. All else that a request says
wrongly is taken for something harmless, and white space around what it asks for does not matter.
-/

namespace Namebook

/-- A text names a provenance by one of two words, and it is compared with them without the white
space around it and without ASCII case. -/
theorem Provenance.parse_eq (s : String) :
    parse s =
      let word := String.ofList (Text.asciiLower (Text.trim s).toList)
      if word = "manual" then .ok .manual
      else if word = "discovered" then .ok .discovered
      else .error word := by
  have hspelling : spelling s = String.ofList (Text.asciiLower (Text.trim s).toList) := by
    simp [spelling, Text.trim]
  rw [parse, hspelling]
  dsimp only
  generalize String.ofList (Text.asciiLower (Text.trim s).toList) = word
  by_cases hmanual : word = "manual"
  · simp [hmanual, ofWord?, Provenance.word]
  · by_cases hdiscovered : word = "discovered"
    · simp [hdiscovered, ofWord?, Provenance.word]
    · simp [hmanual, hdiscovered, Ne.symm hmanual, Ne.symm hdiscovered, ofWord?, Provenance.word]

namespace Http

/-! ## What a request asks for -/

/-- A parameter without the white space around it. One that is missing is as good as blank. -/
def Request.trimmed (r : Request) (name : String) : String :=
  Text.trim ((r.parameter? name).getD "")

/-- What a parameter asks for, if it is not blank. -/
def Request.asked (r : Request) (name : String) : Option String :=
  if r.trimmed name = "" then none else some (r.trimmed name)

/-- The word by which the source is asked for. -/
def Request.sourceWord (r : Request) : String :=
  String.ofList (Text.asciiLower (r.trimmed "source").toList)

/-- The source that is asked for is none. -/
def Request.IsOfUnknownSource (r : Request) : Prop :=
  r.trimmed "source" ≠ "" ∧ r.sourceWord ≠ "manual" ∧ r.sourceWord ≠ "discovered"

instance (r : Request) : Decidable r.IsOfUnknownSource :=
  inferInstanceAs (Decidable (_ ∧ _ ∧ _))

/-- The filters that are asked for, with no source if that is unknown. -/
def Request.filters (r : Request) : Filters where
  space := r.asked "namespace"
  portal := r.asked "portal"
  provenance :=
    if r.sourceWord = "manual" then some .manual
    else if r.sourceWord = "discovered" then some .discovered
    else none
  search := r.asked "search"

theorem given?_eq_asked (r : Request) (name : String) : given? r name = r.asked name :=
  Text.bind_nonBlank? (r.parameter? name)

theorem provenance?_some (raw : String) :
    provenance? (some raw) =
      let word := String.ofList (Text.asciiLower (Text.trim raw).toList)
      if word = "manual" then .ok (some .manual)
      else if word = "discovered" then .ok (some .discovered)
      else .error (.unknownSource raw) := by
  rw [provenance?, Provenance.parse_eq]
  dsimp only
  split_ifs <;> rfl

theorem provenance?_asked (r : Request) :
    provenance? (r.asked "source") =
      if r.IsOfUnknownSource then .error (.unknownSource (r.trimmed "source"))
      else .ok r.filters.provenance := by
  simp only [Request.asked, Request.filters]
  by_cases hblank : r.trimmed "source" = ""
  · have hword : r.sourceWord = "" := by simp [Request.sourceWord, hblank, Text.asciiLower]
    simp [hblank, Request.IsOfUnknownSource, provenance?, hword]
  · have hword : String.ofList (Text.asciiLower (Text.trim (r.trimmed "source")).toList) =
        r.sourceWord := by
      rw [Request.sourceWord, Request.trimmed, Text.trim_trim]
    rw [if_neg hblank, provenance?_some, hword]
    by_cases hmanual : r.sourceWord = "manual"
    · simp [hmanual, Request.IsOfUnknownSource]
    · by_cases hdiscovered : r.sourceWord = "discovered"
      · simp [hdiscovered, Request.IsOfUnknownSource]
      · simp [hmanual, hdiscovered, hblank, Request.IsOfUnknownSource]

theorem filters_eq (r : Request) :
    filters r =
      if r.IsOfUnknownSource then .error (.unknownSource (r.trimmed "source"))
      else .ok r.filters := by
  simp only [filters, given?_eq_asked, provenance?_asked]
  by_cases h : r.IsOfUnknownSource
  · simp [h, bind, Except.bind]
  · simp [h, bind, Except.bind, pure, Except.pure, Request.filters]

/-- The size that the page is to have: digits, maybe after a plus sign, of a number above zero that
fits a word. -/
def Request.IsOfPageSize (r : Request) (n : Nat) : Prop :=
  ∃ raw ds, r.parameter? "pageSize" = some raw ∧
    (Text.trimChars raw.toList = ds ∨ Text.trimChars raw.toList = '+' :: ds) ∧ ds ≠ [] ∧
    (∀ d ∈ ds, d.isDigit = true) ∧ Nat.ofDigitChars 10 ds 0 = n ∧ 0 < n ∧ n ≤ Text.maxWord

theorem isOfPageSize_iff {r : Request} {n : Nat} : r.IsOfPageSize n ↔ pageSize r = n ∧ 0 < n := by
  have hread (read : Option Nat) : read.getD 0 = n ∧ 0 < n ↔ read = some n ∧ 0 < n := by
    cases read with
    | none => simp; omega
    | some m => simp
  rw [pageSize, hread, Request.IsOfPageSize]
  cases r.parameter? "pageSize" with
  | none => simp
  | some raw =>
    rw [Option.bind_some, Text.natUpTo?_eq_some_iff]
    constructor
    · rintro ⟨_, ds, ⟨⟩, hraw, hne, hdigits, hn, hpos, hle⟩
      exact ⟨⟨ds, hraw, hne, hdigits, hn, hle⟩, hpos⟩
    · rintro ⟨⟨ds, hraw, hne, hdigits, hn, hle⟩, hpos⟩
      exact ⟨raw, ds, rfl, hraw, hne, hdigits, hn, hpos, hle⟩

theorem pageSize_eq_zero {r : Request} (h : ∀ n, ¬r.IsOfPageSize n) : pageSize r = 0 := by
  by_contra hne
  exact h _ (isOfPageSize_iff.mpr ⟨rfl, Nat.pos_of_ne_zero hne⟩)

/-! ## What is answered -/

/-- The reply to a list. -/
def listReply : Except Refusal Page → Reply
  | .ok page => Reply.json page.toJson
  | .error e => refusal e

section
variable {r : Request} (hr : r.repeats listParameters = false)
include hr

theorem list_of_unknown (h : r.IsOfUnknownSource) (d : Directory) :
    list d r = (refusal (.unknownSource (r.trimmed "source")), d) := by
  simp only [list, hr, filters_eq, if_pos h, Bool.false_eq_true, if_false]

theorem list_of_known (h : ¬r.IsOfUnknownSource) (d : Directory) :
    list d r =
      (listReply (d.list r.filters (pageSize r) (pageToken r)).1,
        (d.list r.filters (pageSize r) (pageToken r)).2) := by
  simp only [list, hr, filters_eq, if_neg h, Bool.false_eq_true, if_false]
  generalize d.list r.filters (pageSize r) (pageToken r) = result
  obtain ⟨answer, e⟩ := result
  cases answer with
  | ok page => rfl
  | error e => rfl

theorem list_of_unready (h : ¬r.IsOfUnknownSource) {d : Directory} {failure : StoreFailure}
    (hd : d.awaitStore.IsUnready r.filters failure) :
    (list d r).1 = refusal (.notReady failure) := by
  rw [list_of_known hr h, Directory.list_eq, Directory.records_of_unready hd]
  rfl

theorem list_of_ready (h : ¬r.IsOfUnknownSource) {d : Directory}
    (hd : ∀ failure, ¬d.awaitStore.IsUnready r.filters failure) :
    (list d r).1 =
      Reply.json (Page.of (listing r.filters d.awaitStore.listedSets) (pageSize r)
        (pageToken r)).toJson := by
  rw [list_of_known hr h, Directory.list_eq, Directory.records_of_ready hd]
  rfl

/-- The three ways to answer a list, each with its status. -/
theorem status_list (d : Directory) :
    r.IsOfUnknownSource ∧ (list d r).1.status = 400 ∨
      ¬r.IsOfUnknownSource ∧ (∃ failure, d.awaitStore.IsUnready r.filters failure) ∧
        (list d r).1.status = 503 ∨
      ¬r.IsOfUnknownSource ∧ (∀ failure, ¬d.awaitStore.IsUnready r.filters failure) ∧
        (list d r).1.status = 200 := by
  by_cases h : r.IsOfUnknownSource
  · rw [list_of_unknown hr h]
    exact .inl ⟨h, rfl⟩
  · by_cases hd : ∃ failure, d.awaitStore.IsUnready r.filters failure
    · obtain ⟨failure, hf⟩ := hd
      rw [list_of_unready hr h hf]
      exact .inr (.inl ⟨h, ⟨failure, hf⟩, rfl⟩)
    · have hready := not_exists.mp hd
      rw [list_of_ready hr h hready]
      exact .inr (.inr ⟨h, hready, rfl⟩)

end

/-- Two requests ask for the same page of the same list. Of each filter only what is left without
the white space around it counts, so that one may be blank where the other has none. -/
def Request.AsksAs (r r' : Request) : Prop :=
  (∀ name ∈ ["namespace", "portal", "source", "search"], r'.trimmed name = r.trimmed name) ∧
    ∀ name ∈ ["pageSize", "pageToken"], r'.parameter? name = r.parameter? name

instance (r r' : Request) : Decidable (r.AsksAs r') :=
  inferInstanceAs (Decidable (_ ∧ _))

theorem list_of_asksAs {r r' : Request} (hr : r.repeats listParameters = false)
    (hr' : r'.repeats listParameters = false) (h : r.AsksAs r') (d : Directory) :
    list d r' = list d r := by
  have hgiven : ∀ name ∈ ["namespace", "portal", "source", "search"],
      given? r' name = given? r name := by
    intro name hname
    rw [given?_eq_asked, given?_eq_asked, Request.asked, Request.asked, h.1 name hname]
  have hf : filters r' = filters r := by
    simp only [filters, hgiven "namespace" (by simp), hgiven "portal" (by simp),
      hgiven "source" (by simp), hgiven "search" (by simp)]
  have hs : pageSize r' = pageSize r := by rw [pageSize, pageSize, h.2 "pageSize" (by simp)]
  have ht : pageToken r' = pageToken r := by rw [pageToken, pageToken, h.2 "pageToken" (by simp)]
  rw [list, list, hr, hr', hf, hs, ht]

end Http

/-- A list ends with what the directory gives at that moment, and it publishes nothing. -/
theorem Course.act_finish_list {w : Course} {place began size : Nat} {f : Filters} {token : String}
    (hc : w.calls[place]? = some ⟨began, .list f size token⟩) :
    (w.act (.finish place)).1 =
        .listed ((w.directory.concludeList f).1.map fun all => Page.of all size token) ∧
      (w.act (.finish place)).2.directory.snapshot = w.directory.snapshot := by
  have ha : w.act (.finish place) = w.finishCall place ⟨began, .list f size token⟩ := by
    simp only [act, finish, hc]
  rw [ha]
  exact ⟨rfl, w.directory.snapshot_concludeList f⟩

namespace Http

/-- When a list fails, if no parameter is given twice. A source that is asked for and is none is
refused before anything is done. For any other the store is called, and only if it fails while
nothing was published yet is there no page. Nothing else that a request says is refused. The page is
of the size that is asked for, and all is given for a page size that is no number above zero. White
space around a filter makes no difference, and a blank filter is none. The snapshot is the same as
if nobody had asked; whatever happens while the store is called, neither the beginning of the call
nor its end publishes anything, and what is answered depends on the moment of its end. -/
theorem list_answers (r : Request) (hr : r.repeats listParameters = false) :
    (∀ d : Directory,
      ((list d r).1.status = 400 ↔ r.IsOfUnknownSource) ∧
      (r.IsOfUnknownSource →
        list d r = (refusal (.unknownSource (r.trimmed "source")), d)) ∧
      ((list d r).1.status = 503 ↔
        ¬r.IsOfUnknownSource ∧ ∃ failure, d.awaitStore.IsUnready r.filters failure) ∧
      (¬r.IsOfUnknownSource →
        (∀ failure, d.awaitStore.IsUnready r.filters failure →
          (list d r).1 = refusal (.notReady failure)) ∧
        ((∀ failure, ¬d.awaitStore.IsUnready r.filters failure) →
          let all := listing r.filters d.awaitStore.listedSets
          let page := Page.of all (pageSize r) (pageToken r)
          (list d r).1 = Reply.json page.toJson ∧
            (∀ n, r.IsOfPageSize n → page = Page.of all n (pageToken r)) ∧
            ((∀ n, ¬r.IsOfPageSize n) → page = ⟨all, "", all.length⟩)) ∧
        (list d r).2.snapshot = (d.advance d.store.latency).snapshot)) ∧
    (∀ r', r'.repeats listParameters = false → r.AsksAs r' → ∀ d, list d r' = list d r) ∧
    ∀ w : Course,
      let errand := .list r.filters (pageSize r) (pageToken r)
      (w.act (.call errand)).2.directory.snapshot = w.directory.snapshot ∧
        ∀ place began, w.calls[place]? = some ⟨began, errand⟩ →
          (w.act (.finish place)).2.directory.snapshot = w.directory.snapshot ∧
          (∀ failure, w.directory.IsUnready r.filters failure →
            (w.act (.finish place)).1 = .listed (.error (.notReady failure))) ∧
          ((∀ failure, ¬w.directory.IsUnready r.filters failure) →
            (w.act (.finish place)).1 =
              .listed (.ok (Page.of (listing r.filters w.directory.listedSets) (pageSize r)
                (pageToken r)))) := by
  refine ⟨fun d => ⟨?unknown, fun h => list_of_unknown hr h d, ?notReady, fun h => ?known⟩,
    fun r' hr' h d => list_of_asksAs hr hr' h d, fun w => ⟨(w.keeps_call _).2, ?ended⟩⟩
  -- Each of the three ways to answer has a status of its own.
  case unknown =>
    rcases status_list hr d with ⟨h, hs⟩ | ⟨h, -, hs⟩ | ⟨h, -, hs⟩ <;> simp [h, hs]
  case notReady =>
    rcases status_list hr d with ⟨h, hs⟩ | ⟨h, hd, hs⟩ | ⟨h, hd, hs⟩
    · simp [h, hs]
    · simp [h, hs, hd]
    · simp [hs, hd]
  case known =>
    refine ⟨fun failure hd => list_of_unready hr h hd,
      fun hd => ⟨list_of_ready hr h hd, fun n hsize => ?_, fun hsize => ?_⟩, ?_⟩
    · rw [(isOfPageSize_iff.mp hsize).1]
    · rw [pageSize_eq_zero hsize, Page.of_zero]
    · rw [list_of_known hr h]
      exact (d.alikeButCounts_list r.filters (pageSize r) (pageToken r)).snapshot
  case ended =>
    intro place began hc
    obtain ⟨ha, hs⟩ := Course.act_finish_list hc
    refine ⟨hs, fun failure hd => ?_, fun hd => ?_⟩
    · rw [ha, Directory.records_of_unready hd]
      rfl
    · rw [ha, Directory.records_of_ready hd]
      rfl

/-- A source that is blank is none, a page size that is no number gives the whole list, and both may
as well be missing; one that is a number counts. The store fails before anything was published, or
it works. -/
theorem list_answers_blankSource :
    let r : Request := { method := "GET", target := "/api/v1/fqdns?source=+&pageSize=x" }
    let plain : Request := { method := "GET", target := "/api/v1/fqdns?pageSize=x" }
    let sized : Request := { method := "GET", target := "/api/v1/fqdns?pageSize=%2B1" }
    let works : Directory :=
      { resolver := .ofTables [] [], streamBuffer := 1, store := { sets := [.single "x"] } }
    let fails : Directory := { works with store := { failure := some "down" } }
    r.repeats listParameters = false ∧
      (list fails r).1 = refusal (.notReady (.unavailable "down")) ∧
      (list works r).1 = Reply.json (Page.toJson ⟨[.single "x"], "", 1⟩) ∧
      list works plain = list works r ∧
      (list works sized).1 = Reply.json (Page.of [.single "x"] 1 "").toJson := by
  intro r plain sized works fails
  have hr : r.repeats listParameters = false := by decide +kernel
  have hknown : ¬r.IsOfUnknownSource := by decide +kernel
  obtain ⟨hanswers, hsame, -⟩ := list_answers r hr
  -- Once the store works, both requests are answered with a page of the same list.
  have hpage {q : Request} (hq : q.repeats listParameters = false) (hknown : ¬q.IsOfUnknownSource)
      (hfilters : q.filters = Filters.unfiltered) :
      let page := Page.of [.single "x"] (pageSize q) (pageToken q)
      (list works q).1 = Reply.json page.toJson ∧
        (∀ n, q.IsOfPageSize n → page = Page.of [.single "x"] n (pageToken q)) ∧
        ((∀ n, ¬q.IsOfPageSize n) → page = ⟨[.single "x"], "", 1⟩) := by
    have hwait := works.resembles_awaitStore
    have hfailure : works.awaitStore.store.failure = none := hwait.failure
    have hsets : works.awaitStore.listedSets = [.single "x"] := by
      simp [Directory.listedSets, hfailure, hwait.sets, works]
    have hready (failure : StoreFailure) : ¬works.awaitStore.IsUnready q.filters failure := by
      simp [Directory.IsUnready, Store.matching, Store.all, hfailure, Except.map]
    have hlisting : listing q.filters works.awaitStore.listedSets = [.single "x"] := by
      rw [hfilters, hsets]
      exact listing_eq_singleton (by decide)
    have hgiven := (((list_answers q hq).1 works).2.2.2 hknown).2.1 hready
    rwa [hlisting] at hgiven
  refine ⟨hr, ?_, ?_, hsame plain (by decide +kernel) (by decide +kernel) works, ?_⟩
  · have hwait := fails.resembles_awaitStore
    have hfailure : fails.awaitStore.store.failure = some "down" := hwait.failure
    have hsnapshot : fails.awaitStore.snapshot = fails.snapshot := hwait.snapshot rfl
    have hunready : fails.awaitStore.IsUnready r.filters (.unavailable "down") :=
      ⟨by simp [Store.matching, Store.all, hfailure, Except.map], by rw [hsnapshot]; rfl⟩
    exact ((hanswers fails).2.2.2 hknown).1 _ hunready
  · have hsize (n : Nat) : ¬r.IsOfPageSize n := by
      have hzero : pageSize r = 0 := by decide +kernel
      rw [isOfPageSize_iff, hzero]
      exact fun h => Nat.ne_of_gt h.2 h.1.symm
    obtain ⟨hreply, -, hwhole⟩ := hpage hr hknown (by decide +kernel)
    rw [hreply, hwhole hsize]
  · have hsize : sized.IsOfPageSize 1 := isOfPageSize_iff.mpr ⟨by decide +kernel, Nat.one_pos⟩
    have htoken : pageToken sized = "" := by decide +kernel
    obtain ⟨hreply, hsized, -⟩ :=
      hpage (q := sized) (by decide +kernel) (by decide +kernel) (by decide +kernel)
    rw [hreply, hsized 1 hsize, htoken]

end Http

end Namebook
