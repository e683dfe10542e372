import CloudGrant.Amazon.Account
import CloudGrant.Proofs.Run.History

/-!
# Emptying a bucket

A service lists a bucket page after page and refuses some requests (`Storage`). The pages say which
requests lie ahead of each point on the way (`Ahead`). One step of the way sends the first of them: if
it is granted then the others lie ahead (`Ahead.granted`), and if it is refused then the way is ended
(`Ahead.refused`). So by induction the requests that are sent are those that lie ahead, up to the first
that is refused (`program_ahead`), and those that lie ahead of the whole drain the pages (`Drained`).
-/

namespace CloudGrant.Amazon.Emptying

/-! ## The requests that lie ahead -/

/-- A request with what it brings if it is granted. -/
structure Granted where
  operation : Operation
  brings : operation.Result

/-- The request with the answer that grants it. -/
def Granted.event (g : Granted) : services.Event := ⟨g.operation, .ok g.brings⟩

/-- The keys of a page, in the order of its entries. -/
def keysOf (page : Page) : List String := page.keys.filterMap id

/-- The requests that drain a page. -/
def drainPage (bucket : String) (start : Option String) (page : Page) : List Granted :=
  ⟨.listObjects bucket start, page⟩ :: (keysOf page).map fun key => ⟨.deleteObject bucket key, ()⟩

/-- The requests that drain a bucket page by page, each page from where the one before it says. -/
def drain (bucket : String) : Option String → List Page → List Granted
  | _, [] => []
  | start, page :: pages => drainPage bucket start page ++ drain bucket (nextStart start page) pages

/-- The pages of a listing: each but the last says where the next one starts. -/
inductive Listing : Option String → List Page → Prop where
  | last {start : Option String} {page : Page} (h : nextStart start page = none) :
      Listing start [page]
  | more {start : Option String} {page : Page} {next : String} {pages : List Page}
      (h : nextStart start page = some next) (hrest : Listing (some next) pages) :
      Listing start (page :: pages)

/-- The requests that lie ahead of a point, and the pages that they list, if all are granted. -/
inductive Ahead (bucket : String) : Emptying → List Page → List Granted → Prop where
  | ended : Ahead bucket (.ended (.ok ())) [] []
  | finishing : Ahead bucket .finishing [] [⟨.deleteBucket bucket, ()⟩]
  | deleting {key : String} {keys : List String} {next : Option String} {pages : List Page}
      {plan : List Granted} (h : Ahead bucket (withKeys keys next) pages plan) :
      Ahead bucket (.deleting key keys next) pages (⟨.deleteObject bucket key, ()⟩ :: plan)
  | listing {start : Option String} {page : Page} {pages : List Page} {plan : List Granted}
      (h : Ahead bucket (withKeys (keysOf page) (nextStart start page)) pages plan) :
      Ahead bucket (.listing start) (page :: pages) (⟨.listObjects bucket start, page⟩ :: plan)

section

variable {bucket : String} {start next : Option String} {keys : List String} {pages : List Page}
  {plan : List Granted} {e : Emptying}

theorem Ahead.withKeys (h : Ahead bucket (Emptying.withKeys [] next) pages plan) :
    Ahead bucket (Emptying.withKeys keys next) pages
      ((keys.map fun key => ⟨.deleteObject bucket key, ()⟩) ++ plan) := by
  induction keys with
  | nil => exact h
  | cons key keys ih => exact .deleting ih

/-- The requests that drain a bucket lie ahead of its listing, and then its deletion. -/
theorem ahead_listing (h : Listing start pages) :
    Ahead bucket (.listing start) pages
      (drain bucket start pages ++ [⟨.deleteBucket bucket, ()⟩]) := by
  induction h with
  | @last start page h =>
    rw [drain, drainPage, List.cons_append, List.cons_append, List.append_assoc]
    refine .listing ?_
    rw [h]
    exact Ahead.withKeys .finishing
  | @more start page next pages h hrest ih =>
    rw [drain, drainPage, List.cons_append, List.cons_append, List.append_assoc]
    refine .listing ?_
    rw [h]
    exact Ahead.withKeys ih

end

/-! ## A storage service -/

/-- A service that has these pages to list yet, and refuses some of the requests to come. -/
structure Storage where
  pages : List Page
  refusals : Nat → Option Refusal

namespace Storage

/-- What a granted request brings. -/
def brings (w : Storage) : (o : Operation) → o.Result
  | .listObjects .. => w.pages.headD ⟨[], none⟩
  | .createPolicy .. | .createRole .. => none
  | .createBucket .. | .putBucketPolicy .. | .deleteObject .. | .deleteBucket ..
  | .deletePolicy .. | .deleteRole .. | .attachRolePolicy .. | .detachRolePolicy ..
  | .putReport .. | .deleteReport .. => ()

/-- The pages that are left when a request is granted. -/
def left (w : Storage) : Operation → List Page
  | .listObjects .. => w.pages.tail
  | _ => w.pages

/-- How a request is answered. -/
def answer (w : Storage) (o : services.Request) : services.Reply o × Storage :=
  match w.refusals 0 with
  | some r => (.error r, ⟨w.pages, fun n => w.refusals (n + 1)⟩)
  | none => (.ok (w.brings o), ⟨w.left o, fun n => w.refusals (n + 1)⟩)

/-- The answers to all that may be requested next. -/
def answers (w : Storage) : Answers := fun o => (w.answer o).1

variable {w : Storage} {o : services.Request}

theorem answer_of_granted (h : w.refusals 0 = none) :
    w.answer o = (.ok (w.brings o), ⟨w.left o, fun n => w.refusals (n + 1)⟩) := by
  unfold answer
  rw [h]

theorem answer_of_refused {r : Refusal} (h : w.refusals 0 = some r) :
    w.answer o = (.error r, ⟨w.pages, fun n => w.refusals (n + 1)⟩) := by
  unfold answer
  rw [h]

end Storage

/-- A program sends these requests to a service and comes to this result. -/
def Goes (p : ServiceWork (Except Cause Unit)) (w : Storage) (l : List services.Event)
    (r : Except Cause Unit) : Prop :=
  (p ()).history Storage.answer w = l ∧ ((p ()).exec Storage.answer w).1.2 = r

theorem goes_pure {w : Storage} {r : Except Cause Unit} : Goes (pure r) w [] r := ⟨rfl, rfl⟩

theorem goes_ended {bucket : String} {budget : Nat} {w : Storage} {r : Except Cause Unit} :
    Goes (program bucket budget (.ended r)) w [] r := by
  cases budget <;> exact goes_pure

theorem goes_ask {o : Operation} {f : Except Refusal o.Result → ServiceWork (Except Cause Unit)}
    {w w' : Storage} {a : Except Refusal o.Result} {l : List services.Event} {r : Except Cause Unit}
    (hanswer : w.answer o = (a, w')) (h : Goes (f a) w' l r) :
    Goes (askService o >>= f) w (⟨o, a⟩ :: l) r := by
  have hgoes : Goes (f (w.answer o).1) (w.answer o).2 l r := by rwa [hanswer]
  have hfirst : (w.answer o).1 = a := congrArg Prod.fst hanswer
  rw [← hfirst]
  exact ⟨congrArg (_ :: ·) hgoes.1, hgoes.2⟩

/-- To go on from a point is to send its request and to go on from where the answer leads. -/
theorem goes_step {bucket : String} {budget : Nat} {e : Emptying} {o : Operation}
    (ho : e.operation? bucket = some o) {w w' : Storage} {a : Except Refusal o.Result}
    {l : List services.Event} {r : Except Cause Unit} (hanswer : w.answer o = (a, w'))
    (h : Goes (program bucket budget (e.step bucket w.answers)) w' l r) :
    Goes (program bucket (budget + 1) e) w (⟨o, a⟩ :: l) r := by
  have hfirst : w.answers o = a := congrArg Prod.fst hanswer
  cases e with
  | listing start | deleting key keys next | finishing =>
    cases ho
    simp only [step, hfirst] at h
    exact goes_ask hanswer h
  | ended r => cases ho

/-! ## The first refusal -/

/-- Whether the absence of what a request is about is a success. -/
def forgives : Operation → Bool
  | .listObjects .. => true
  | .deleteBucket _ => true
  | _ => false

/-- What comes of the whole when a request is refused. -/
def refused (o : Operation) (r : Refusal) : Except Cause Unit :=
  if forgives o ∧ r.isAbsence then .ok () else .error (o.failure r)

theorem refused_eq_ok_iff {o : Operation} {r : Refusal} :
    refused o r = .ok () ↔ forgives o ∧ r.isAbsence := by
  unfold refused
  split
  · next h => exact iff_of_true rfl h
  · next h => exact iff_of_false nofun h

/-- The requests that are sent, up to the first that is refused. -/
def sent : List Granted → (Nat → Option Refusal) → List services.Event
  | [], _ => []
  | g :: plan, refusals =>
    match refusals 0 with
    | some r => [⟨g.operation, .error r⟩]
    | none => g.event :: sent plan fun n => refusals (n + 1)

/-- What comes of them. -/
def outcome : List Granted → (Nat → Option Refusal) → Except Cause Unit
  | [], _ => .ok ()
  | g :: plan, refusals =>
    match refusals 0 with
    | some r => refused g.operation r
    | none => outcome plan fun n => refusals (n + 1)

section

variable {bucket : String} {pages : List Page} {plan : List Granted} {e : Emptying} {g : Granted}
  {refusals : Nat → Option Refusal}

theorem sent_of_granted (h : refusals 0 = none) :
    sent (g :: plan) refusals = g.event :: sent plan fun n => refusals (n + 1) := by
  rw [sent, h]

theorem sent_of_refused {r : Refusal} (h : refusals 0 = some r) :
    sent (g :: plan) refusals = [⟨g.operation, .error r⟩] := by
  rw [sent, h]

theorem outcome_of_granted (h : refusals 0 = none) :
    outcome (g :: plan) refusals = outcome plan fun n => refusals (n + 1) := by
  rw [outcome, h]

theorem outcome_of_refused {r : Refusal} (h : refusals 0 = some r) :
    outcome (g :: plan) refusals = refused g.operation r := by
  rw [outcome, h]

theorem Ahead.operation (h : Ahead bucket e pages (g :: plan)) :
    e.operation? bucket = some g.operation := by
  cases h <;> rfl

/-- If the first request that lies ahead is granted then the others lie ahead. -/
theorem Ahead.granted (h : Ahead bucket e pages (g :: plan)) (hr : refusals 0 = none) :
    ∃ left, Storage.answer ⟨pages, refusals⟩ g.operation =
        (.ok g.brings, ⟨left, fun n => refusals (n + 1)⟩) ∧
      Ahead bucket (e.step bucket (Storage.answers ⟨pages, refusals⟩)) left plan := by
  have hanswer {o : Operation} := Storage.answer_of_granted (w := ⟨pages, refusals⟩) (o := o) hr
  have hfirst {o : Operation} :
      Storage.answers ⟨pages, refusals⟩ o = .ok (Storage.brings ⟨pages, refusals⟩ o) :=
    congrArg Prod.fst hanswer
  cases h with
  | finishing =>
    refine ⟨[], hanswer, ?_⟩
    simp only [step, hfirst]
    exact .ended
  | deleting h =>
    refine ⟨pages, hanswer, ?_⟩
    simp only [step, hfirst]
    exact h
  | @listing start page pages plan h =>
    refine ⟨pages, hanswer, ?_⟩
    simp only [step, hfirst]
    exact h

/-- If it is refused then the way is ended. -/
theorem Ahead.refused (h : Ahead bucket e pages (g :: plan)) {answers : Answers} {r : Refusal}
    (hanswer : answers g.operation = .error r) :
    e.step bucket answers = .ended (Emptying.refused g.operation r) := by
  cases h with
  | finishing =>
    cases h : r.isAbsence <;>
      simp [step, hanswer, afterBucket, Operation.removal, Emptying.refused, forgives, h]
  | deleting _ => simp [step, hanswer, afterObject, Emptying.refused, forgives]
  | listing _ =>
    cases h : r.isAbsence <;> simp [step, hanswer, afterPage, Emptying.refused, forgives, h]

/-- **The requests that lie ahead are sent up to the first that is refused.** -/
theorem program_ahead (h : Ahead bucket e pages plan) {budget : Nat}
    (hbudget : (sent plan refusals).length ≤ budget) :
    Goes (program bucket budget e) ⟨pages, refusals⟩ (sent plan refusals)
      (outcome plan refusals) := by
  induction plan generalizing e pages refusals budget with
  | nil =>
    cases h
    exact goes_ended
  | cons g plan ih =>
    cases hr : refusals 0 with
    | some r =>
      have hanswer := Storage.answer_of_refused (w := ⟨pages, refusals⟩) (o := g.operation) hr
      rw [sent_of_refused hr] at hbudget ⊢
      rw [outcome_of_refused hr]
      obtain ⟨budget, rfl⟩ := Nat.exists_eq_add_of_le' hbudget
      refine goes_step h.operation hanswer ?_
      rw [h.refused (congrArg Prod.fst hanswer)]
      exact goes_ended
    | none =>
      obtain ⟨left, hanswer, hahead⟩ := h.granted hr
      rw [sent_of_granted hr, List.length_cons] at hbudget
      rw [sent_of_granted hr, outcome_of_granted hr]
      obtain ⟨budget, rfl⟩ := Nat.exists_eq_add_of_le' (Nat.le_trans (Nat.le_add_left 1 _) hbudget)
      exact goes_step h.operation hanswer (ih hahead (Nat.le_of_succ_le_succ hbudget))

/-- Behind requests that are all granted, the others are sent. -/
theorem sent_append (h : ∀ n < plan.length, refusals n = none) (more : List Granted) :
    sent (plan ++ more) refusals =
        plan.map Granted.event ++ sent more (fun n => refusals (plan.length + n)) ∧
      outcome (plan ++ more) refusals = outcome more fun n => refusals (plan.length + n) := by
  induction plan generalizing refusals with
  | nil => simp
  | cons g plan ih =>
    have hfirst : refusals 0 = none := h 0 (Nat.succ_pos _)
    have hrest : ∀ n < plan.length, refusals (n + 1) = none :=
      fun n hn => h (n + 1) (Nat.succ_lt_succ hn)
    obtain ⟨hsent, houtcome⟩ := ih hrest
    have hshift : (fun n => refusals (plan.length + n + 1)) =
        fun n => refusals ((g :: plan).length + n) := by
      funext n
      congr 1
      simp only [List.length_cons]
      omega
    rw [List.cons_append, sent_of_granted hfirst, outcome_of_granted hfirst, hsent, houtcome,
      hshift]
    exact ⟨rfl, rfl⟩

/-- If a request is the first that is refused then nothing is sent behind it. -/
theorem sent_of_first {n : Nat} (hn : n < plan.length) {r : Refusal}
    (hbefore : ∀ m < n, refusals m = none) (hr : refusals n = some r) (more : List Granted) :
    sent (plan ++ more) refusals =
        (plan.take n).map Granted.event ++ [⟨plan[n].operation, .error r⟩] ∧
      outcome (plan ++ more) refusals = refused plan[n].operation r := by
  have hlength : (plan.take n).length = n := List.length_take_of_le (Nat.le_of_lt hn)
  have hsplit : plan ++ more = plan.take n ++ (plan[n] :: (plan.drop (n + 1) ++ more)) := by
    rw [← List.cons_append, List.getElem_cons_drop, ← List.append_assoc, List.take_append_drop]
  have hgranted : ∀ m < (plan.take n).length, refusals m = none :=
    fun m hm => hbefore m (hlength ▸ hm)
  obtain ⟨hsent, houtcome⟩ := sent_append hgranted (plan[n] :: (plan.drop (n + 1) ++ more))
  have hfirst : (fun k => refusals ((plan.take n).length + k)) 0 = some r := by
    rw [hlength]
    exact hr
  rw [hsplit, hsent, houtcome, sent_of_refused hfirst, outcome_of_refused hfirst]
  exact ⟨rfl, rfl⟩

/-- Of so many requests none is refused, or there is a first one that is. -/
theorem exists_first (refusals : Nat → Option Refusal) (length : Nat) :
    (∀ n < length, refusals n = none) ∨
      ∃ n < length, ∃ r, (∀ m < n, refusals m = none) ∧ refusals n = some r := by
  induction length with
  | zero => exact .inl nofun
  | succ length ih =>
    rcases ih with hnone | ⟨n, hn, h⟩
    · cases hlast : refusals length with
      | none =>
        refine .inl fun n hn => ?_
        rcases Nat.lt_succ_iff_lt_or_eq.mp hn with hn | rfl
        · exact hnone n hn
        · exact hlast
      | some r => exact .inr ⟨length, Nat.lt_succ_self _, r, hnone, hlast⟩
    · exact .inr ⟨n, Nat.lt_succ_of_lt hn, h⟩

end

/-! ## What is sent to drain a bucket -/

/-- The keys of the objects that were deleted, in order. -/
def deleted (l : List services.Event) : List String :=
  l.filterMap fun
    | ⟨.deleteObject _ key, .ok _⟩ => some key
    | _ => none

/-- What comes of the whole if this is the last request. -/
def conclusion : services.Event → Except Cause Unit
  | ⟨_, .ok _⟩ => .ok ()
  | ⟨o, .error r⟩ => refused o r

section

variable {bucket : String} {start : Option String} {page : Page} {pages : List Page} {g : Granted}

theorem deleted_append (l l' : List services.Event) : deleted (l ++ l') = deleted l ++ deleted l' :=
  List.filterMap_append

theorem deleted_keys (keys : List String) :
    deleted ((keys.map fun key => ⟨.deleteObject bucket key, ()⟩ : List Granted).map
      Granted.event) = keys := by
  induction keys with
  | nil => rfl
  | cons key keys ih => exact congrArg (key :: ·) ih

/-- To drain a bucket is to delete the objects of all its pages. -/
theorem deleted_drain :
    deleted ((drain bucket start pages).map Granted.event) = pages.flatMap keysOf := by
  induction pages generalizing start with
  | nil => rfl
  | cons page pages ih =>
    have hpage : deleted ((drainPage bucket start page).map Granted.event) = keysOf page :=
      deleted_keys (keysOf page)
    rw [drain, List.map_append, deleted_append, hpage, ih, List.flatMap_cons]

/-- To drain a bucket takes listings and deletions of objects. -/
theorem mem_drain (h : g ∈ drain bucket start pages) :
    (∃ start, g.operation = .listObjects bucket start) ∨
      ∃ key, g.operation = .deleteObject bucket key := by
  induction pages generalizing start with
  | nil => cases h
  | cons page pages ih =>
    rcases List.mem_append.mp h with h | h
    · rcases List.mem_cons.mp h with rfl | h
      · exact .inl ⟨start, rfl⟩
      · obtain ⟨key, -, rfl⟩ := List.mem_map.mp h
        exact .inr ⟨key, rfl⟩
    · exact ih h

/-- To drain a bucket does not take its deletion. -/
theorem deleteBucket_not_mem_drain {a : Except Refusal Unit} {n : Nat} :
    (⟨.deleteBucket bucket, a⟩ : services.Event) ∉
      ((drain bucket start pages).take n).map Granted.event := by
  intro h
  obtain ⟨g, hg, hevent⟩ := List.mem_map.mp h
  have hoperation : g.operation = .deleteBucket bucket := congrArg Sigma.fst hevent
  rcases mem_drain (List.mem_of_mem_take hg) with ⟨start, h⟩ | ⟨key, h⟩ <;>
    cases hoperation.symm.trans h

end

/-- How the deletion of a bucket goes whose pages are these, if these of its requests are refused,
counted from zero. The requests that drain the pages are sent in their order up to the first that is
refused; the deletion of the bucket is sent if none is. The last request decides what comes of all. -/
structure Drained (bucket : String) (pages : List Page) (refusals : Nat → Option Refusal)
    (l : List services.Event) (r : Except Cause Unit) : Prop where
  granted : (∀ n < (drain bucket none pages).length, refusals n = none) →
    l = (drain bucket none pages).map Granted.event ++ [⟨.deleteBucket bucket,
      (refusals (drain bucket none pages).length).elim (.ok ()) .error⟩]
  refused : ∀ n (hn : n < (drain bucket none pages).length) refusal,
    (∀ m < n, refusals m = none) → refusals n = some refusal →
      l = ((drain bucket none pages).take n).map Granted.event ++
        [⟨(drain bucket none pages)[n].operation, .error refusal⟩]
  deletion : (∃ a, ⟨.deleteBucket bucket, a⟩ ∈ l) ↔
    ∀ n < (drain bucket none pages).length, refusals n = none
  result : l.getLast?.map conclusion = some r
  succeeded : r = .ok () → deleted l = pages.flatMap keysOf ∨
    ∃ start refusal, refusal.isAbsence ∧
      l.getLast? = some ⟨.listObjects bucket start, .error refusal⟩

section

variable {bucket : String} {pages : List Page} {refusals : Nat → Option Refusal}

theorem drained_of_granted
    (h : ∀ n < (drain bucket none pages).length, refusals n = none) :
    Drained bucket pages refusals
      ((drain bucket none pages).map Granted.event ++ [⟨.deleteBucket bucket,
        (refusals (drain bucket none pages).length).elim (.ok ()) .error⟩])
      (conclusion ⟨.deleteBucket bucket,
        (refusals (drain bucket none pages).length).elim (.ok ()) .error⟩) where
  granted _ := rfl
  refused n hn refusal _ hr := by cases (h n hn).symm.trans hr
  deletion := iff_of_true ⟨_, List.mem_append_right _ (List.mem_singleton_self _)⟩ h
  result := by rw [List.getLast?_concat, Option.map_some]
  succeeded _ := by
    refine .inl ?_
    rw [deleted_append, deleted_drain]
    exact List.append_nil _

theorem drained_of_refused {n : Nat} (hn : n < (drain bucket none pages).length) {refusal : Refusal}
    (hbefore : ∀ m < n, refusals m = none) (hr : refusals n = some refusal) :
    Drained bucket pages refusals
      (((drain bucket none pages).take n).map Granted.event ++
        [⟨(drain bucket none pages)[n].operation, .error refusal⟩])
      (Emptying.refused (drain bucket none pages)[n].operation refusal) where
  granted h := by cases (h n hn).symm.trans hr
  refused m hm refusal' hbefore' hr' := by
    obtain rfl : m = n := by
      rcases Nat.lt_trichotomy m n with h | h | h
      · cases (hbefore m h).symm.trans hr'
      · exact h
      · cases (hbefore' n h).symm.trans hr
    cases hr.symm.trans hr'
    rfl
  deletion := by
    refine iff_of_false ?_ fun h => by cases (h n hn).symm.trans hr
    rintro ⟨a, h⟩
    rcases List.mem_append.mp h with h | h
    · exact deleteBucket_not_mem_drain h
    · have hoperation : Operation.deleteBucket bucket = (drain bucket none pages)[n].operation :=
        congrArg Sigma.fst (List.mem_singleton.mp h)
      rcases mem_drain (List.getElem_mem hn) with ⟨start, h⟩ | ⟨key, h⟩ <;>
        cases hoperation.trans h
  result := by rw [List.getLast?_concat, Option.map_some]; rfl
  succeeded hok := by
    refine .inr ?_
    rw [List.getLast?_concat]
    rcases mem_drain (List.getElem_mem hn) with ⟨start, h⟩ | ⟨key, h⟩
    · rw [h] at hok ⊢
      exact ⟨start, refusal, (refused_eq_ok_iff.mp hok).2, rfl⟩
    · rw [h] at hok
      cases (refused_eq_ok_iff.mp hok).1

/-- The requests that are sent are those that drain the bucket. -/
theorem drained_sent (bucket : String) (pages : List Page) (refusals : Nat → Option Refusal) :
    Drained bucket pages refusals
      (sent (drain bucket none pages ++ [⟨.deleteBucket bucket, ()⟩]) refusals)
      (outcome (drain bucket none pages ++ [⟨.deleteBucket bucket, ()⟩]) refusals) := by
  rcases exists_first refusals (drain bucket none pages).length with h | ⟨n, hn, r, hbefore, hr⟩
  · obtain ⟨hsent, houtcome⟩ := sent_append h [⟨.deleteBucket bucket, ()⟩]
    rw [hsent, houtcome]
    have hdrained := drained_of_granted h
    cases hr : refusals (drain bucket none pages).length with
    | none =>
      rw [sent_of_granted hr, outcome_of_granted hr]
      rwa [hr] at hdrained
    | some r =>
      rw [sent_of_refused hr, outcome_of_refused hr]
      rwa [hr] at hdrained
  · obtain ⟨hsent, houtcome⟩ := sent_of_first hn hbefore hr [⟨.deleteBucket bucket, ()⟩]
    rw [hsent, houtcome]
    exact drained_of_refused hn hbefore hr

/-- The deletion of a bucket sends these requests and comes to this result, if it may send so
many. -/
structure Deletes (bucket : String) (w : Storage) (l : List services.Event)
    (r : Except Cause Unit) : Prop where
  within : ∀ budget, l.length ≤ budget → Goes (program bucket budget start) w l r
  call : ∀ region, l.length ≤ emptyingBudget →
    Goes (carryOut region (.deleteBucket bucket)) w l r

theorem deletes_sent (bucket : String) (h : Listing none pages) (refusals : Nat → Option Refusal) :
    Deletes bucket ⟨pages, refusals⟩
      (sent (drain bucket none pages ++ [⟨.deleteBucket bucket, ()⟩]) refusals)
      (outcome (drain bucket none pages ++ [⟨.deleteBucket bucket, ()⟩]) refusals) where
  within _ hbudget := program_ahead (ahead_listing h) hbudget
  call _ hbudget := program_ahead (ahead_listing h) hbudget

/-- **A bucket is drained page by page before it is deleted.** -/
theorem bucket_drained (bucket : String) {pages : List Page} (h : Listing none pages)
    (refusals : Nat → Option Refusal) :
    ∃ l r, Deletes bucket ⟨pages, refusals⟩ l r ∧ Drained bucket pages refusals l r :=
  ⟨_, _, deletes_sent bucket h refusals, drained_sent bucket pages refusals⟩

/-- Two pages, and an entry without a key. -/
theorem two_pages_drained :
    let first : Page := ⟨[some "a", none], some "t"⟩
    let second : Page := ⟨[some "b"], none⟩
    Listing none [first, second] ∧
      ∃ l r, Deletes "bucket" ⟨[first, second], fun _ => none⟩ l r ∧
        l = [⟨.listObjects "bucket" none, .ok first⟩, ⟨.deleteObject "bucket" "a", .ok ()⟩,
          ⟨.listObjects "bucket" (some "t"), .ok second⟩, ⟨.deleteObject "bucket" "b", .ok ()⟩,
          ⟨.deleteBucket "bucket", .ok ()⟩] ∧ r = .ok () := by
  intro first second
  have hfirst : nextStart none first = some "t" := by decide
  have hlisting : Listing none [first, second] := .more hfirst (.last (by decide))
  obtain ⟨l, r, hdeletes, hdrained⟩ := bucket_drained "bucket" hlisting fun _ => none
  have hsent := hdrained.granted fun _ _ => rfl
  have hresult := hdrained.result
  rw [hsent, List.getLast?_concat] at hresult
  exact ⟨hlisting, l, r, hdeletes, hsent, (Option.some.inj hresult).symm⟩

end

end CloudGrant.Amazon.Emptying
