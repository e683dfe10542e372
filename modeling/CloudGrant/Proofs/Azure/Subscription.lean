import CloudGrant.Azure.Status

/-!
# The subscription in a resource id

A subscription stands between two marks. Of the marks of a subscription the first one counts that
has a mark of a provider behind it on its line, and of these providers the last (`Names`). The search
finds what stands between exactly these two (`subscriptionIn_cases`), by induction on the text: the
first mark stands either at its start or behind its first character.
-/

namespace CloudGrant.Azure

/-! ## The last occurrence of a pattern -/

section Last

variable {p s before : List Char}

/-- `before` is what stands before the last occurrence of `p` in `s`. -/
structure BeforeLast (p s before : List Char) : Prop where
  occurs : before ++ p <+: s
  last : ∀ other, other ++ p <+: s → other.length ≤ before.length

theorem BeforeLast.cons (h : BeforeLast p s before) (c : Char) :
    BeforeLast p (c :: s) (c :: before) where
  occurs := List.cons_prefix_cons.mpr ⟨rfl, h.occurs⟩
  last other hother := by
    cases other with
    | nil => exact Nat.zero_le _
    | cons d other => exact Nat.succ_le_succ (h.last other (List.cons_prefix_cons.mp hother).2)

/-- An occurrence of a pattern is at the start of a text, or one in what follows. -/
theorem occurs_cons {c : Char} (h : before ++ p <+: c :: s) :
    (before = [] ∧ p <+: c :: s) ∨ ∃ rest, before = c :: rest ∧ rest ++ p <+: s := by
  cases before with
  | nil => exact .inl ⟨rfl, h⟩
  | cons d rest =>
    obtain ⟨rfl, hrest⟩ := List.cons_prefix_cons.mp h
    exact .inr ⟨rest, rfl, hrest⟩

/-- What is found stands before the last occurrence, and if nothing is found then there is none. -/
theorem beforeLast?_cases (hp : p ≠ []) (s : List Char) :
    (beforeLast? p s = none ∧ ∀ before, ¬ before ++ p <+: s) ∨
      ∃ before, beforeLast? p s = some before ∧ BeforeLast p s before := by
  induction s with
  | nil => exact .inl ⟨rfl, fun before => by simp [hp]⟩
  | cons c s ih =>
    unfold beforeLast?
    rcases ih with ⟨hnone, hrest⟩ | ⟨before, hsome, hbefore⟩
    · rw [hnone]
      cases hhead : Text.afterPrefix? p (c :: s) with
      | none =>
        refine .inl ⟨rfl, fun before h => ?_⟩
        rcases occurs_cons h with ⟨-, h⟩ | ⟨rest, -, h⟩
        · exact Text.afterPrefix?_eq_none_iff.mp hhead h
        · exact hrest rest h
      | some r =>
        have hstart : p <+: c :: s := ⟨r, (Text.afterPrefix?_eq_some_iff.mp hhead).symm⟩
        refine .inr ⟨[], rfl, hstart, fun other h => ?_⟩
        rcases occurs_cons h with ⟨rfl, -⟩ | ⟨rest, -, h⟩
        · exact Nat.le_refl _
        · exact absurd h (hrest rest)
    · rw [hsome]
      exact .inr ⟨c :: before, rfl, hbefore.cons c⟩

end Last

/-! ## Between the marks -/

/-- Behind `before` stands a mark of a subscription, and behind that and `between`, on the same
line, a mark of a provider. -/
structure Encloses (s before between : List Char) : Prop where
  occurs : before ++ subscriptionMark ++ between ++ providerMark <+: s
  line : '\n' ∉ between

/-- `between` reaches from the first mark of a subscription that has a mark of a provider behind it
on its line to the last such mark. -/
inductive Names (s between : List Char) : Prop where
  | intro {before : List Char} (encloses : Encloses s before between)
      (first : ∀ before' between', Encloses s before' between' → before.length ≤ before'.length)
      (last : ∀ between', Encloses s before between' → between'.length ≤ between.length)

variable {s before between : List Char} {c : Char}

theorem Encloses.cons (h : Encloses s before between) (c : Char) :
    Encloses (c :: s) (c :: before) between where
  occurs := List.cons_prefix_cons.mpr ⟨rfl, h.occurs⟩
  line := h.line

/-- The first mark stands at the start of a text, or both stand in what follows. -/
theorem Encloses.of_cons (h : Encloses (c :: s) before between) :
    (before = [] ∧ Encloses (c :: s) [] between) ∨
      ∃ rest, before = c :: rest ∧ Encloses s rest between := by
  cases before with
  | nil => exact .inl ⟨rfl, h⟩
  | cons d rest =>
    obtain ⟨rfl, hrest⟩ := List.cons_prefix_cons.mp h.occurs
    exact .inr ⟨rest, rfl, hrest, h.line⟩

/-- A prefix of the part of a text in which all characters have a property. -/
theorem prefix_takeWhile_iff {l r : List Char} {q : Char → Bool} :
    l <+: r.takeWhile q ↔ l <+: r ∧ ∀ c ∈ l, q c := by
  constructor
  · intro h
    exact ⟨h.trans <| List.takeWhile_prefix q, fun c hc =>
      List.all_eq_true.mp List.all_takeWhile c (h.subset hc)⟩
  · rintro ⟨⟨t, rfl⟩, hl⟩
    rw [List.takeWhile_append_of_pos hl]
    exact List.prefix_append _ _

/-- If the first mark stands at the start of a text then the second stands in the rest of its
line. -/
theorem encloses_nil_iff : Encloses s [] between ↔
    ∃ r, Text.afterPrefix? subscriptionMark s = some r ∧
      between ++ providerMark <+: r.takeWhile (· ≠ '\n') := by
  have hmark : '\n' ∉ providerMark := by decide
  simp only [Text.afterPrefix?_eq_some_iff, prefix_takeWhile_iff]
  constructor
  · rintro ⟨⟨t, rfl⟩, hline⟩
    refine ⟨between ++ providerMark ++ t, by simp, ⟨t, rfl⟩, fun c hc => decide_eq_true ?_⟩
    rcases List.mem_append.mp hc with hc | hc
    · rintro rfl
      exact hline hc
    · rintro rfl
      exact hmark hc
  · rintro ⟨r, rfl, ⟨t, rfl⟩, hline⟩
    refine ⟨⟨t, by simp⟩, fun h => ?_⟩
    exact of_decide_eq_true (hline _ (List.mem_append_left _ h)) rfl

/-- A text starts in one way only with so many characters. -/
theorem eq_of_starts {l l' : List Char} (h : l <+: s) (h' : l' <+: s)
    (hlength : l.length = l'.length) : l = l' :=
  (List.prefix_of_prefix_length_le h h' (Nat.le_of_eq hlength)).eq_of_length hlength

/-- What is enclosed is behind the first mark and what stands before that. -/
theorem Encloses.starts (h : Encloses s before between) :
    before ++ (subscriptionMark ++ between) <+: s := by
  have hstart : before ++ subscriptionMark ++ between <+: s :=
    (List.prefix_append _ _).trans h.occurs
  rwa [List.append_assoc] at hstart

/-- At most one subscription is named. -/
theorem Names.unique {between' : List Char} (h : Names s between) (h' : Names s between') :
    between = between' := by
  rcases h with @⟨before, hencloses, hfirst, hlast⟩
  rcases h' with @⟨before', hencloses', hfirst', hlast'⟩
  have hbefore : before = before' :=
    eq_of_starts ((List.prefix_append _ _).trans hencloses.starts)
      ((List.prefix_append _ _).trans hencloses'.starts)
      (Nat.le_antisymm (hfirst _ _ hencloses') (hfirst' _ _ hencloses))
  subst hbefore
  have hlength := Nat.le_antisymm (hlast' _ hencloses) (hlast _ hencloses')
  refine List.append_cancel_left (List.append_cancel_left
    (eq_of_starts hencloses.starts hencloses'.starts ?_))
  simp only [List.length_append, hlength]

/-! ## The search -/

/-- A mark at the start of a text encloses nothing, or what is found there is the last that it
encloses. -/
theorem head_cases (s : List Char) :
    let found := (Text.afterPrefix? subscriptionMark s).bind
      fun r => beforeLast? providerMark (r.takeWhile (· ≠ '\n'))
    (found = none ∧ ∀ between, ¬ Encloses s [] between) ∨
      ∃ between, found = some between ∧ Encloses s [] between ∧
        ∀ between', Encloses s [] between' → between'.length ≤ between.length := by
  simp only [encloses_nil_iff]
  cases Text.afterPrefix? subscriptionMark s with
  | none => exact .inl ⟨rfl, fun between => by simp⟩
  | some r =>
    simp only [Option.bind_some, Option.some.injEq, exists_eq_left']
    rcases beforeLast?_cases (p := providerMark) (by decide) (r.takeWhile (· ≠ '\n')) with
      hnone | ⟨between, hsome, hlast⟩
    · exact .inl hnone
    · exact .inr ⟨between, hsome, hlast.occurs, hlast.last⟩

/-- What the search finds is named, and if it finds nothing then nothing is enclosed. -/
theorem subscriptionIn_cases (s : List Char) :
    (subscriptionIn s = [] ∧ ∀ before between, ¬ Encloses s before between) ∨
      Names s (subscriptionIn s) := by
  induction s with
  | nil =>
    refine .inl ⟨rfl, fun before between h => ?_⟩
    have hnil := List.prefix_nil.mp h.occurs
    exact absurd (List.append_eq_nil_iff.mp hnil).2 (by decide)
  | cons c s ih =>
    unfold subscriptionIn
    rcases head_cases (c :: s) with ⟨hnone, hhead⟩ | ⟨between, hsome, hencloses, hlast⟩
    · rw [hnone]
      have htail : ∀ {before between}, Encloses (c :: s) before between →
          ∃ rest, before = c :: rest ∧ Encloses s rest between := fun h =>
        h.of_cons.resolve_left fun hnil => hhead _ hnil.2
      rcases ih with ⟨hnil, hnot⟩ | ⟨hencloses, hfirst, hlast⟩
      · refine .inl ⟨hnil, fun before between h => ?_⟩
        obtain ⟨rest, -, h⟩ := htail h
        exact hnot rest between h
      · refine .inr (.intro (hencloses.cons c) (fun before' between' h => ?_) fun between' h => ?_)
        · obtain ⟨rest, rfl, hrest⟩ := htail h
          exact Nat.succ_le_succ (hfirst rest between' hrest)
        · obtain ⟨rest, heq, hrest⟩ := htail h
          cases heq
          exact hlast between' hrest
    · rw [hsome]
      exact .inr (.intro hencloses (fun _ _ _ => Nat.zero_le _) hlast)

theorem subscriptionIn_eq_iff (hne : between ≠ []) :
    subscriptionIn s = between ↔ Names s between := by
  rcases subscriptionIn_cases s with ⟨hnil, hnot⟩ | hnames
  · refine iff_of_false (fun h => hne (h.symm.trans hnil)) ?_
    rintro ⟨hencloses, -, -⟩
    exact hnot _ _ hencloses
  · constructor
    · rintro rfl
      exact hnames
    · exact hnames.unique

/-- What is named is found unless it is empty. -/
theorem subscriptionId?_eq_some_iff {id x : String} :
    subscriptionId? id = some x ↔ x ≠ "" ∧ Names id.toList x.toList := by
  have hfound : subscriptionId? id = some x ↔ x ≠ "" ∧ subscriptionIn id.toList = x.toList := by
    unfold subscriptionId?
    split
    · next hnil =>
      rw [hnil]
      exact iff_of_false nofun fun h => h.1 (String.toList_eq_nil_iff.mp h.2.symm)
    · next hne =>
      rw [Option.some.injEq]
      constructor
      · rintro rfl
        rw [String.toList_ofList]
        exact ⟨fun h => hne (String.ofList_inj.mp h), rfl⟩
      · rintro ⟨-, h⟩
        rw [h, String.ofList_toList]
  rw [hfound]
  exact and_congr_right fun hx => subscriptionIn_eq_iff (mt String.toList_eq_nil_iff.mp hx)

/-! ## The ids of deployments -/

/-- A pattern that starts with a slash stands behind what has none. -/
theorem occurs_append {u t p before : List Char} (hu : '/' ∉ u)
    (h : before ++ '/' :: p <+: u ++ t) : ∃ rest, before = u ++ rest ∧ rest ++ '/' :: p <+: t := by
  induction u generalizing before with
  | nil => exact ⟨before, rfl, h⟩
  | cons c u ih =>
    obtain ⟨hc, hu⟩ := not_or.mp (mt List.mem_cons.mpr hu)
    rcases occurs_cons h with ⟨-, hhead⟩ | ⟨rest, rfl, hrest⟩
    · exact absurd (List.cons_prefix_cons.mp hhead).1 hc
    · obtain ⟨rest', rfl, hrest'⟩ := ih hu hrest
      exact ⟨rest', rfl, hrest'⟩

/-- Behind a slash that is followed by another word, a pattern stands no earlier than at the next
slash. -/
theorem not_occurs_cons {c d : Char} {u t p : List Char} (hcd : c ≠ d) (hu : '/' ∉ d :: u)
    (ht : ∀ before, ¬ before ++ '/' :: c :: p <+: t) (before : List Char) :
    ¬ before ++ '/' :: c :: p <+: '/' :: (d :: u ++ t) := by
  intro h
  rcases occurs_cons h with ⟨-, hslash⟩ | ⟨rest, -, hrest⟩
  · exact hcd (List.cons_prefix_cons.mp (List.cons_prefix_cons.mp hslash).2).1
  · obtain ⟨rest', -, hrest'⟩ := occurs_append hu hrest
    exact ht rest' hrest'

/-- What has no slash has no provider behind its start. -/
theorem not_occurs_name {name p : List Char} (hname : '/' ∉ name) (hp : '/' ∈ p)
    (before : List Char) : ¬ before ++ '/' :: p <+: '/' :: name := by
  intro h
  rcases occurs_cons h with ⟨-, hslash⟩ | ⟨rest, -, hrest⟩
  · exact hname ((List.cons_prefix_cons.mp hslash).2.subset hp)
  · exact hname (hrest.subset (List.mem_append_right _ List.mem_cons_self))

theorem providerMark_eq : providerMark = '/' :: 'p' :: "roviders/".toList := by decide

/-- Behind the provider in the id of a deployment no other one is marked. -/
theorem not_occurs_deployment {name : List Char} (hname : '/' ∉ name) (before : List Char) :
    ¬ before ++ providerMark <+:
      '/' :: ("Microsoft.Resources".toList ++ '/' :: ("deployments".toList ++ '/' :: name)) := by
  have hkind : "deployments".toList = 'd' :: "eployments".toList := by decide
  have hprovider : "Microsoft.Resources".toList = 'M' :: "icrosoft.Resources".toList := by decide
  rw [providerMark_eq, hkind, hprovider]
  refine not_occurs_cons (by decide) (by decide) ?_ before
  refine not_occurs_cons (by decide) (by decide) ?_
  exact not_occurs_name hname (by decide)

/-- The id of a deployment names the subscription that the deployment went to. -/
theorem names_deployment {subscription name : List Char} (hslash : '/' ∉ subscription)
    (hline : '\n' ∉ subscription) (hname : '/' ∉ name) :
    Names (subscriptionMark ++ (subscription ++ '/' :: ("providers".toList ++
      '/' :: ("Microsoft.Resources".toList ++ '/' :: ("deployments".toList ++ '/' :: name)))))
      subscription := by
  refine @Names.intro _ _ [] ⟨?_, hline⟩ (fun _ _ _ => Nat.zero_le _) fun between h => ?_
  · have hmark : providerMark = '/' :: ("providers".toList ++ ['/']) := by decide
    simp only [hmark, List.nil_append, List.append_assoc, List.prefix_append_right_inj,
      List.cons_prefix_cons, true_and]
    exact List.nil_prefix
  · have hbetween := h.occurs
    rw [List.nil_append, List.append_assoc, List.prefix_append_right_inj, providerMark_eq]
      at hbetween
    obtain ⟨rest, rfl, hrest⟩ := occurs_append hslash hbetween
    rcases occurs_cons hrest with ⟨rfl, -⟩ | ⟨rest', -, hrest'⟩
    · exact Nat.le_of_eq (congrArg List.length (List.append_nil _))
    · obtain ⟨before, -, hbefore⟩ := occurs_append (by decide) hrest'
      rw [← providerMark_eq] at hbefore
      exact absurd hbefore (not_occurs_deployment hname before)

/-- **A subscription is found exactly if it is named and not empty.** Hence in the id of a
deployment the subscription is found that the deployment went to. -/
theorem subscription_between_marks :
    (∀ id x : String, subscriptionId? id = some x ↔ x ≠ "" ∧ Names id.toList x.toList) ∧
      ∀ subscription name : String, subscription ≠ "" → '/' ∉ subscription.toList →
        '\n' ∉ subscription.toList → '/' ∉ name.toList →
          subscriptionId? ("/subscriptions/" ++ subscription ++
            "/providers/Microsoft.Resources/deployments/" ++ name) = some subscription := by
  refine ⟨fun id x => subscriptionId?_eq_some_iff,
    fun subscription name hne hslash hline hname => ?_⟩
  have hid : ("/subscriptions/" ++ subscription ++ "/providers/Microsoft.Resources/deployments/" ++
      name).toList = subscriptionMark ++ (subscription.toList ++ '/' :: ("providers".toList ++
        '/' :: ("Microsoft.Resources".toList ++
          '/' :: ("deployments".toList ++ '/' :: name.toList)))) := by
    have htail : "/providers/Microsoft.Resources/deployments/".toList =
        '/' :: ("providers".toList ++ '/' :: ("Microsoft.Resources".toList ++
          '/' :: ("deployments".toList ++ ['/']))) := by decide
    simp only [String.toList_append, htail, List.append_assoc, List.cons_append, List.nil_append]
    rfl
  rw [subscriptionId?_eq_some_iff, hid]
  exact ⟨hne, names_deployment hslash hline hname⟩

/-- The subscription of a deployment whose name goes on in another line. -/
theorem subscription_of_deployment :
    "sub-1" ≠ "" ∧ '/' ∉ "sub-1".toList ∧ '\n' ∉ "sub-1".toList ∧ '/' ∉ "grant\n1".toList ∧
      subscriptionId? ("/subscriptions/" ++ "sub-1" ++
        "/providers/Microsoft.Resources/deployments/" ++ "grant\n1") = some "sub-1" := by
  have hslash : '/' ∉ "sub-1".toList := by decide
  have hline : '\n' ∉ "sub-1".toList := by decide
  have hname : '/' ∉ "grant\n1".toList := by decide
  exact ⟨by decide, hslash, hline, hname,
    subscription_between_marks.2 "sub-1" "grant\n1" (by decide) hslash hline hname⟩

/-- A mark with no provider on its line does not count, and of two providers the last does. -/
example : subscriptionId? "/subscriptions/a\n/subscriptions/b/providers/c/providers/d" =
    some "b/providers/c" := by decide

end CloudGrant.Azure
