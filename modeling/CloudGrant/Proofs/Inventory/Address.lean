import CloudGrant.Proofs.Http.Url
import CloudGrant.Proofs.Inventory.Attempts
import CloudGrant.Proofs.Inventory.Identity

/-!
# Where calls to the inventory go

Four calls are about something with an id, and the id is a segment of the path: a `Slot` says what
stands before it and after it. The id is percent-encoded, so whatever characters it has, they stay in
its segment (`request_names_id_iff`). The two texts that no percent-encoding makes a name are those of
one dot and of two: a path that has such a segment is walked, and the request goes to a place that
belongs to no id (`dots_lead_elsewhere`).
-/

namespace CloudGrant

open Http (Url)

namespace Http.Url

/-! ## Segments of dots -/

theorem foldl_enter_of_no_dots {l : List (List Char)}
    (h : ∀ s ∈ l, isDot s = false ∧ isDoubleDot s = false) (place : List (List Char)) :
    l.foldl enter place = place ++ l := by
  induction l generalizing place with
  | nil => exact (List.append_nil place).symm
  | cons s l ih =>
    obtain ⟨⟨hdot, hdouble⟩, hl⟩ := List.forall_mem_cons.mp h
    rw [List.foldl_cons, ih hl, enter, hdouble, hdot]
    simp

/-- A segment of dots leaves no segment in its place. -/
theorem walk_ne_of_dots {place l : List (List Char)} {s segment : List Char}
    (hs : isDot s = true ∨ isDoubleDot s = true)
    (hl : ∀ t ∈ l, isDot t = false ∧ isDoubleDot t = false) (hsegment : segment ≠ []) :
    walk place (s :: l) ≠ place ++ segment :: l := by
  have hplace : (enter place s).length ≤ place.length := by
    unfold enter
    split
    · simp
    · rw [if_pos (hs.resolve_right ‹_›)]
  cases l with
  | nil =>
    intro h
    have hlast : (walk place [s]).getLast? = some [] := by
      rw [walk]
      split
      · simp
      · rw [if_pos (hs.resolve_right ‹_›), List.getLast?_concat]
    rw [h, List.getLast?_concat] at hlast
    exact hsegment (Option.some.inj hlast)
  | cons t l =>
    rw [walk_cons s (List.cons_ne_nil t l), walk_of_no_dots hl]
    intro h
    have hlength := congrArg List.length h
    simp only [List.length_append, List.length_cons] at hlength
    omega

end Http.Url

namespace Inventory

open Http.Url (AreSegments isDot isDoubleDot keepsQuery pathText queryText walk)
open Text.Percent (component)

/-! ## Slots -/

/-- Where an id stands in the URLs of a kind of call. -/
structure Slot where
  before : List (List Char)
  after : List (List Char)
  query : Option (List Char)
  segments : ∀ l ∈ [before, after], AreSegments l := by decide
  noDots : ∀ l ∈ [before, after], ∀ s ∈ l, isDot s = false ∧ isDoubleDot s = false := by decide
  keeps : ∀ q ∈ query, ∀ c ∈ q, keepsQuery c = true := by
    simp [keepsQuery, Http.Url.keepsBut]

/-- The slot that a call puts an id into, with the id. -/
def Call.slot? : Call → Option (Slot × String)
  | credential id => some
    ({ before := ["internal".toList, "v2.0".toList, "authentications".toList]
       after := []
       query := some "expose_encrypted_attribute[]=password".toList }, id)
  | patchApplication id _ => some
    ({ before := ["api".toList, "sources".toList, "v3.1".toList, "applications".toList]
       after := []
       query := none }, id)
  | patchSource id _ => some
    ({ before := ["api".toList, "sources".toList, "v3.1".toList, "sources".toList]
       after := []
       query := none }, id)
  | checkAvailability source => some
    ({ before := ["api".toList, "sources".toList, "v3.1".toList, "sources".toList]
       after := ["check_availability".toList]
       query := none }, source)
  | createAuthentication _ => none
  | linkAuthentication .. => none

variable {s : Settings} {caller : Caller} {c : Call} {slot : Slot} {id : String} {b : Url}

/-- The segments of a slot with something in the id's place. -/
def Slot.fill (slot : Slot) (segment : List Char) : List (List Char) :=
  slot.before ++ segment :: slot.after

theorem Slot.areSegments_fill (slot : Slot) (id : String) : AreSegments (slot.fill (component id)) := by
  have hbefore := slot.segments slot.before (by simp)
  have hafter := slot.segments slot.after (by simp)
  intro s hs c hc
  rcases List.mem_append.mp hs with hs | hs
  · exact hbefore s hs c hc
  · rcases List.mem_cons.mp hs with rfl | hs
    · exact Http.Url.isSegmentChar_of_mem_component hc
    · exact hafter s hs c hc

/-- The path of a call is its slot with the id in it. -/
theorem Call.path_of_slot (h : c.slot? = some (slot, id)) :
    c.path = String.ofList (pathText (.segments (slot.fill (component id))) ++ queryText slot.query) := by
  refine String.toList_inj.mp ?_
  cases c <;> cases h <;>
    simp [path, internalPath, publicPath, segment, Slot.fill, pathText, queryText]

/-- A URL names an id in a slot: it is the base, then the slot with one segment that stands for the id. -/
def Slot.Names (slot : Slot) (b : Url) (id : String) (u : Url) : Prop :=
  ∃ segment, Text.Percent.decode segment = Text.Utf8.encode id ∧
    u = { b with
      userInfo := none
      path := .segments (b.directory ++ slot.fill segment)
      query := slot.query }

/-- The URL of a call is its slot walked down from the base. -/
theorem url_of_request (hb : Http.Url.IsBase s.baseUrl b) (hc : c.slot? = some (slot, id))
    {r : Http.Request} (hr : s.request caller c = .ok r) :
    r.url = { b with
      userInfo := none
      path := .segments (walk b.directory (slot.fill (component id)))
      query := slot.query } := by
  have hfill : slot.fill (component id) ≠ [] := by simp [Slot.fill]
  have hparse := hb.parse?_append hfill (slot.areSegments_fill id) slot.keeps
  rw [← Call.path_of_slot hc] at hparse
  obtain ⟨u, hu, rfl⟩ := request_eq_of_ok hr
  obtain rfl := Option.some.inj (hu.symm.trans hparse)
  rfl

theorem walk_fill (slot : Slot) (place : List (List Char)) (segment : List Char) :
    walk place (slot.fill segment) = walk (place ++ slot.before) (segment :: slot.after) := by
  rw [Slot.fill, Http.Url.walk_append (List.cons_ne_nil _ _),
    Http.Url.foldl_enter_of_no_dots (slot.noDots slot.before (by simp))]

theorem walk_fill_of_no_dots (hid : id ≠ "." ∧ id ≠ "..") (place : List (List Char)) :
    walk place (slot.fill (component id)) = place ++ slot.fill (component id) := by
  have hnone : ∀ t ∈ component id :: slot.after, isDot t = false ∧ isDoubleDot t = false := by
    refine List.forall_mem_cons.mpr ⟨⟨?_, ?_⟩, slot.noDots slot.after (by simp)⟩
    · exact Bool.eq_false_iff.mpr (mt Http.Url.isDot_component_iff.mp hid.1)
    · exact Bool.eq_false_iff.mpr (mt Http.Url.isDoubleDot_component_iff.mp hid.2)
  rw [walk_fill, Http.Url.walk_of_no_dots hnone, Slot.fill, List.append_assoc]

/-- The URL of a call names its id, unless the id is read as a segment of dots. -/
theorem names_iff (hb : Http.Url.IsBase s.baseUrl b) (hc : c.slot? = some (slot, id))
    {r : Http.Request} (hr : s.request caller c = .ok r) :
    slot.Names b id r.url ↔ id ≠ "." ∧ id ≠ ".." := by
  rw [url_of_request hb hc hr]
  constructor
  · rintro ⟨segment, hsegment, hu⟩
    have hpath : walk b.directory (slot.fill (component id)) = b.directory ++ slot.fill segment := by
      simpa using congrArg Url.path hu
    rw [walk_fill, Slot.fill, ← List.append_assoc] at hpath
    refine not_or.mp fun hid => ?_
    have hdots : isDot (component id) = true ∨ isDoubleDot (component id) = true :=
      hid.imp Http.Url.isDot_component_iff.mpr Http.Url.isDoubleDot_component_iff.mpr
    have hnil : segment = [] := by_contra fun hne =>
      Http.Url.walk_ne_of_dots hdots (slot.noDots slot.after (by simp)) hne hpath
    rw [hnil] at hsegment
    rcases hid with rfl | rfl <;> exact absurd hsegment (by decide)
  · intro hid
    exact ⟨component id, Http.Url.decode_component id, by rw [walk_fill_of_no_dots hid]⟩

/-! ## Telling addresses apart -/

/-- The segments of a target can be read off it. -/
theorem eq_of_target {l l' : List (List Char)} {query query' : Option (List Char)}
    (hl : AreSegments l) (hl' : AreSegments l')
    (hquery : ∀ q ∈ query, ∀ c ∈ q, keepsQuery c = true)
    (hquery' : ∀ q ∈ query', ∀ c ∈ q, keepsQuery c = true)
    (h : pathText (.segments l) ++ queryText query = pathText (.segments l') ++ queryText query') :
    l = l' := by
  have htail := congrArg Http.Url.Tail.ofChars h
  have hread := Http.Url.ofChars_append_segments (d := []) (by simp) (by simp) hl hquery
  have hread' := Http.Url.ofChars_append_segments (d := []) (by simp) (by simp) hl' hquery'
  rw [List.nil_append] at hread hread'
  rw [hread, hread'] at htail
  have hsegments := congrArg (Http.Url.segmentsOf true) (congrArg Http.Url.Tail.path htail)
  rw [Http.Url.segmentsOf_append [] hl, Http.Url.segmentsOf_append [] hl'] at hsegments
  exact List.append_cancel_left hsegments

/-- The fixed segments tell the four calls apart, and in one call the segment of the id tells the ids
apart. -/
theorem eq_of_fill {c c' : Call} {slot slot' : Slot} {id id' : String}
    (hc : c.slot? = some (slot, id)) (hc' : c'.slot? = some (slot', id'))
    (h : slot.fill (component id) = slot'.fill (component id')) : slot = slot' ∧ id = id' := by
  cases c <;> cases hc <;> cases c' <;> cases hc' <;>
    simp [Slot.fill, Http.Url.component_inj] at h ⊢ <;> exact h

theorem target_of_request (hb : Http.Url.IsBase s.baseUrl b) (hc : c.slot? = some (slot, id))
    (hid : id ≠ "." ∧ id ≠ "..") {r : Http.Request} (hr : s.request caller c = .ok r) :
    r.url.target = pathText (.segments b.directory) ++
      (pathText (.segments (slot.fill (component id))) ++ queryText slot.query) := by
  rw [url_of_request hb hc hr, walk_fill_of_no_dots hid]
  simp [Http.Url.target, pathText, queryText]

/-- Calls that go to the same place are about the same thing. -/
theorem eq_of_target_eq (hb : Http.Url.IsBase s.baseUrl b) (hc : c.slot? = some (slot, id))
    (hid : id ≠ "." ∧ id ≠ "..") {r : Http.Request} (hr : s.request caller c = .ok r)
    {caller' : Caller} {c' : Call} {slot' : Slot} {id' : String} (hc' : c'.slot? = some (slot', id'))
    (hid' : id' ≠ "." ∧ id' ≠ "..") {r' : Http.Request} (hr' : s.request caller' c' = .ok r')
    (h : r.url.target = r'.url.target) : slot = slot' ∧ id = id' := by
  rw [target_of_request hb hc hid hr, target_of_request hb hc' hid' hr'] at h
  exact eq_of_fill hc hc' (eq_of_target (slot.areSegments_fill id) (slot'.areSegments_fill id')
    slot.keeps slot'.keeps (List.append_cancel_left h))

/-! ## What is sent -/

/-- At a base, the request of a call can be made if the headers of the caller have fit values. -/
theorem exists_request_iff (hb : Http.Url.IsBase s.baseUrl b) (hc : c.slot? = some (slot, id)) :
    (∃ r, s.request caller c = .ok r) ↔ ∀ h ∈ s.headers caller, Http.isFieldValue h.2 = true := by
  have hfill : slot.fill (component id) ≠ [] := by simp [Slot.fill]
  have hparse := hb.parse?_append hfill (slot.areSegments_fill id) slot.keeps
  rw [← Call.path_of_slot hc] at hparse
  have hcontent : ∀ h ∈ contentHeaders c.body?, Http.isFieldValue h.2 = true := by
    unfold contentHeaders
    split <;> decide
  have hmake : ∀ r, s.request caller c = .ok r ↔ _ := fun r => Http.Request.make_eq_ok_iff
  simp only [hmake]
  constructor
  · rintro ⟨r, u, -, -, -, hvalues, -⟩
    exact fun h hh => hvalues h (List.mem_append_left _ hh)
  · intro hvalues
    exact ⟨_, _, hparse, hb.hasHost, hb.isWeb, List.forall_mem_append.mpr ⟨hvalues, hcontent⟩, rfl⟩

/-- The first question of a call is to send its request. -/
theorem carryOut_first {r : Http.Request} (hr : s.request caller c = .ok r) :
    ∃ next, s.carryOut caller c () = .ask () (.send r s.timeout) next := by
  unfold Settings.carryOut Settings.fetch
  obtain ⟨follow, hsend⟩ := Http.exists_sendFollowing s.timeout Http.Request.maxRedirects r
  rw [hr]
  cases s.attempts - 1 with
  | zero =>
    rw [Settings.sendAgain, exchange, Http.Request.send, hsend]
    exact ⟨_, rfl⟩
  | succ again =>
    rw [Settings.sendAgain, exchange, Http.Request.send, hsend]
    exact ⟨_, rfl⟩

/-- All that is sent for a call is its request, and what redirects make of it. -/
theorem sends_leads {r : Http.Request} (hr : s.request caller c = .ok r) :
    (s.carryOut caller c).Throughout (Http.Exchange.Sends r.Leads) fun _ => True := by
  refine Program.throughout_bind ?_ fun _ => Program.throughout_pure _
  refine sends_sendAgain (fun _ => trivial) (fun r' hr' => ?_) _
  obtain rfl := Except.ok.inj (hr.symm.trans hr')
  exact Http.sends_leads r s.timeout

/-- **A call goes to what its id names, unless the id is a dot or two.** The request can be made if the
caller's headers have fit values; it is the first that is sent, and all else that is sent is what
redirects make of it. Its URL is the base, then the segments of the call with one for the id, which is
the id percent-encoded, and the query of the call. So calls that go to the same place are about the same
thing. -/
theorem request_names_id_iff (s : Settings) (b : Url) (hb : Http.Url.IsBase s.baseUrl b) (c : Call)
    (slot : Slot) (id : String) (hc : c.slot? = some (slot, id)) (caller : Caller) :
    ((∃ r, s.request caller c = .ok r) ↔
      ∀ h ∈ s.headers caller, Http.isFieldValue h.2 = true) ∧
    ∀ r, s.request caller c = .ok r →
      (∃ next, s.carryOut caller c () = .ask () (.send r s.timeout) next) ∧
      ((s.carryOut caller c).Throughout (Http.Exchange.Sends r.Leads) fun _ => True) ∧
      (slot.Names b id r.url ↔ id ≠ "." ∧ id ≠ "..") ∧
      ((id ≠ "." ∧ id ≠ "..") → ∀ caller' c' slot' id' r', c'.slot? = some (slot', id') →
        s.request caller' c' = .ok r' → (id' ≠ "." ∧ id' ≠ "..") →
        r.url.target = r'.url.target → slot = slot' ∧ id = id') := by
  refine ⟨exists_request_iff hb hc, fun r hr => ?_⟩
  refine ⟨carryOut_first hr, sends_leads hr, names_iff hb hc hr, ?_⟩
  intro hid caller' c' slot' id' r' hc' hr' hid' h
  exact eq_of_target_eq hb hc hid hr hc' hid' hr' h

/-- The URL of the inventory at a host. -/
def hostUrl : Url where
  scheme := "http".toList
  userInfo := none
  host := some "inventory".toList
  port := none
  path := .segments [[]]
  query := none
  fragment := none

theorem isBase_atHost : Http.Url.IsBase atHost.baseUrl hostUrl where
  parsed := by decide +kernel
  hasHost := by decide
  isWeb := by decide
  query := rfl
  fragment := rfl
  last := ⟨"http://inventor".toList, 'y', by decide +kernel, by decide, by decide⟩

/-- A caller with an identity of its own. -/
def identified : Caller := ⟨"aWQ=", "", ""⟩

/-- Slashes and dots within an id stay in its segment. -/
theorem slashes_stay_in_segment :
    Http.Url.IsBase atHost.baseUrl hostUrl ∧
      ∃ slot r, (Call.patchSource "a/../b" "available").slot? = some (slot, "a/../b") ∧
        atHost.request identified (.patchSource "a/../b" "available") = .ok r ∧
        slot.Names hostUrl "a/../b" r.url := by
  obtain ⟨hmake, hall⟩ := request_names_id_iff atHost hostUrl isBase_atHost
    (.patchSource "a/../b" "available") _ "a/../b" rfl identified
  obtain ⟨r, hr⟩ := hmake.mpr (by decide +kernel)
  obtain ⟨-, -, hnames, -⟩ := hall r hr
  exact ⟨isBase_atHost, _, r, rfl, hr, hnames.mpr (by decide)⟩

/-- The id of two dots takes a call away from all sources; the ids of one dot and of none lead to the
same place. -/
theorem dots_lead_elsewhere :
    (atHost.request identified (.patchSource ".." "available")).map (fun r => r.url.target) =
        .ok "/api/sources/v3.1/".toList ∧
      (atHost.request identified (.checkAvailability "..")).map (fun r => r.url.target) =
        .ok "/api/sources/v3.1/check_availability".toList ∧
      (atHost.request identified (.patchSource "." "available")).map (fun r => r.url) =
        (atHost.request identified (.patchSource "" "available")).map (fun r => r.url) := by
  decide +kernel

end Inventory

end CloudGrant
