import NordVPN.ExitNode.Filtering

/-!
What the procedures of the exit node do to the tables when they return `nil`.

Commands may fail at any point and then the procedure returns an error; so it is
enough to say what has been done when none was returned, and from which tables `nil`
is certain to be returned if no command fails.
-/

namespace NordVPN.ExitNode

open NordVPN.Netip Prog

/-- Nothing fails but commands that delete a line that is not there. -/
structure Env.Works (r : Env) : Prop where
  fails : ∀ n args, r.fails n args = false
  sysctl : ∀ n, r.sysctlFails n = false

theorem Env.working_works : Env.working.Works := ⟨fun _ _ => rfl, fun _ => rfl⟩

/-- Whenever `m` returns `nil` it has done `f` to the tables, and on tables with `P` it
returns `nil` if no command fails. The server stays. -/
def EffectOn (r : Env) (P : Tables → Prop) (m : Exit Unit) (f : Tables → Tables) : Prop :=
  ∀ s, wp m r (fun _ => True) (fun x t => t.server = s.server ∧
    (x = .ok () → t.tables = f s.tables) ∧ (r.Works → P s.tables → x = .ok ())) s

namespace EffectOn

variable {r : Env} {P P' : Tables → Prop} {m m' : Exit Unit} {f g : Tables → Tables}

theorem seq (hm : EffectOn r P m f) (hm' : EffectOn r P' m' g) (h : ∀ t, P t → P' (f t)) :
    EffectOn r P (m >>= fun _ => m') (g ∘ f) := by
  intro s
  refine wp_seq (hm s) (fun _ t ht => wp_post (hm' t) fun x u hu => ?_) fun e t ht => ?_
  · obtain ⟨hserver, hdone, hreturns⟩ := hu
    have htables := ht.2.1 rfl
    refine ⟨hserver.trans ht.1, fun hx => (hdone hx).trans (congrArg g htables), fun hr hP => ?_⟩
    exact hreturns hr (htables ▸ h _ hP)
  · exact ⟨ht.1, nofun, fun hr hP => nomatch ht.2.2 hr hP⟩

theorem mapError (hm : EffectOn r P m f) (h : Error → Error) :
    EffectOn r P (Prog.mapError h m) f := by
  intro s
  refine wp_mapError.mpr (wp_post (hm s) fun x t ht => ?_)
  cases x with
  | ok u => exact ht
  | error e => exact ⟨ht.1, nofun, fun hr hP => nomatch ht.2.2 hr hP⟩

theorem congr (hm : EffectOn r P m f) (h : ∀ t, f t = g t) : EffectOn r P m g :=
  fun s => wp_post (hm s) fun _ _ ht => ⟨ht.1, fun hx => (ht.2.1 hx).trans (h _), ht.2.2⟩

theorem weaken (hm : EffectOn r P m f) (h : ∀ t, P' t → P t) : EffectOn r P' m f :=
  fun s => wp_post (hm s) fun _ _ ht => ⟨ht.1, ht.2.1, fun hr hP => ht.2.2 hr (h _ hP)⟩

/-- A loop; `C` is what an element has to satisfy for `nil` to be certain. -/
theorem forEach {α : Type} {body : α → Exit Unit} {step : α → Tables → Tables} {C : α → Prop}
    (xs : List α) (h : ∀ x ∈ xs, EffectOn r (fun _ => C x) (body x) (step x)) :
    EffectOn r (fun _ => ∀ x ∈ xs, C x) (Prog.forEach body xs)
      fun t => xs.foldl (fun t x => step x t) t := by
  induction xs with
  | nil => exact fun _ => wp_pure.mpr ⟨rfl, fun _ => rfl, fun _ _ => rfl⟩
  | cons x xs ih =>
    have hhead := h x List.mem_cons_self
    have htail := ih fun y hy => h y (List.mem_cons_of_mem x hy)
    exact (hhead.weaken fun _ hC => hC x List.mem_cons_self).seq htail
      fun _ hC y hy => hC y (List.mem_cons_of_mem x hy)

end EffectOn

/-- The same, on all tables. -/
def Effect (r : Env) (m : Exit Unit) (f : Tables → Tables) : Prop := EffectOn r (fun _ => True) m f

namespace Effect

variable {r : Env} {m m' : Exit Unit} {f g : Tables → Tables}

theorem skip : Effect r (pure ()) id :=
  fun _ => wp_pure.mpr ⟨rfl, fun _ => rfl, fun _ _ => rfl⟩

theorem seq (hm : Effect r m f) (hm' : Effect r m' g) : Effect r (m >>= fun _ => m') (g ∘ f) :=
  EffectOn.seq hm hm' fun _ _ => trivial

theorem mapError (hm : Effect r m f) (h : Error → Error) : Effect r (Prog.mapError h m) f :=
  EffectOn.mapError hm h

theorem congr (hm : Effect r m f) (h : ∀ t, f t = g t) : Effect r m g := EffectOn.congr hm h

theorem when (hm : Effect r m f) (c : Bool) : Effect r (Prog.when c m) (if c then f else id) := by
  cases c with
  | false => exact skip
  | true => exact hm

theorem forEach {α : Type} {body : α → Exit Unit} {step : α → Tables → Tables} (xs : List α)
    (h : ∀ x ∈ xs, Effect r (body x) (step x)) :
    Effect r (Prog.forEach body xs) fun t => xs.foldl (fun t x => step x t) t :=
  (EffectOn.forEach xs h).weaken fun _ _ _ _ => trivial

end Effect

/-! ### Single commands -/

section Commands

variable {r : Env} {args : List String} {c : Chain} {l : Line}

theorem wp_execute {s : State} {Q : Except Error Unit → State → Prop}
    {command : Command} (hread : readCommand args = some command)
    (done : ∀ tables output, s.tables.execute command = .ok (tables, output) →
      Q (.ok ()) { s with tables, calls := s.calls + 1 })
    (refused : ∀ output, s.tables.execute command = .error output →
      Q (.error (.external output)) { s with calls := s.calls + 1 })
    (failed : r.fails s.calls args = true →
      Q (.error (.external commandFailed)) { s with calls := s.calls + 1 }) :
    wp (execute args) r any Q s :=
  wp_bind.mpr (wp_iptables hread (fun tables output h => wp_pure.mpr (done tables output h))
    refused failed)

/-- A command that the tables do not refuse. -/
theorem effect_execute {command : Command} {f : Tables → Tables}
    (hread : readCommand args = some command)
    (h : ∀ t : Tables, t.execute command = .ok (f t, [])) :
    Effect r (execute args) f := by
  intro s
  refine wp_execute hread (fun tables output hexec => ?_) (fun output hexec => ?_) fun hfails => ?_
  · cases (h s.tables).symm.trans hexec
    exact ⟨rfl, fun _ => rfl, fun _ _ => rfl⟩
  · cases (h s.tables).symm.trans hexec
  · exact ⟨rfl, nofun, fun hr _ => nomatch (hr.fails _ _).symm.trans hfails⟩

theorem effect_insert (h : readCommand args = some (.insert c l)) :
    Effect r (execute args) (Tables.insert c l) :=
  effect_execute h fun _ => rfl

theorem effect_append (h : readCommand args = some (.append c l)) :
    Effect r (execute args) (Tables.append c l) :=
  effect_execute h fun _ => rfl

/-- A line that is deleted was there. -/
theorem wp_delete {s : State} (h : readCommand args = some (.delete c l)) :
    wp (execute args) r any (fun x t => t.server = s.server ∧
      (x = .ok () → l ∈ s.tables.lines c ∧ t.tables = s.tables.erase c l) ∧
      (∀ e, x = .error e → t.tables = s.tables ∧ (e = .external commandFailed ∧ ¬ r.Works ∨
        e = .external missingRuleMessage ∧ l ∉ s.tables.lines c))) s := by
  refine wp_execute h (fun tables output hexec => ?_) (fun output hexec => ?_) fun hfails => ?_
  · simp only [Tables.execute] at hexec
    split at hexec
    · rename_i hmem
      cases hexec
      exact ⟨rfl, fun _ => ⟨hmem, rfl⟩, nofun⟩
    · cases hexec
  · simp only [Tables.execute] at hexec
    split at hexec
    · cases hexec
    · rename_i hmem
      cases hexec
      exact ⟨rfl, nofun, fun e he => ⟨rfl, .inr ⟨(Except.error.inj he).symm, hmem⟩⟩⟩
  · refine ⟨rfl, nofun, fun e he => ⟨rfl, .inl ⟨(Except.error.inj he).symm, fun hr => ?_⟩⟩⟩
    exact nomatch (hr.fails _ _).symm.trans hfails

/-- Deleting a line that need not be there. -/
theorem effect_tolerateDelete (h : readCommand args = some (.delete c l)) {g : Error → Error}
    (hother : isMissingRule (g (.external commandFailed)) = false)
    (hmissing : isMissingRule (g (.external missingRuleMessage)) = true) :
    Effect r (tolerate isMissingRule (mapError g (execute args))) (Tables.erase c l) := by
  intro s
  refine wp_tolerate.mpr (wp_mapError.mpr (wp_post (wp_delete h) fun x t ht => ?_))
  obtain ⟨hserver, hok, herror⟩ := ht
  cases x with
  | ok u => exact ⟨hserver, fun _ => (hok rfl).2, fun _ _ => rfl⟩
  | error e =>
    obtain ⟨htables, ⟨rfl, hfails⟩ | ⟨rfl, habsent⟩⟩ := herror e rfl
    · simp only [mapError_error, forgive_error, hother]
      exact ⟨hserver, nofun, fun hr => absurd hr hfails⟩
    · simp only [mapError_error, forgive_error, hmissing, if_true]
      refine ⟨hserver, fun _ => ?_, fun _ _ => trivial⟩
      rw [htables, Tables.erase, List.erase_of_not_mem habsent, Tables.set_self]

end Commands

/-! ### Removing the lines with a comment -/

/-- Some word of the line contains the comment. -/
def carries (comment : String) (l : Line) : Bool := l.any (Words.contains · comment)

/-- A comment that is found in a printed line of the chain exactly if a word of the
line contains it, and that is still there after `-A` is replaced. -/
structure IsMark (c : Chain) (comment : String) : Prop where
  word : Words.IsWord comment
  nonempty : comment ≠ ""
  capital : 'A' ∉ comment.toList
  dash : comment.toList.getLast? ≠ some '-'
  added : Words.contains "-A" comment = false
  chain : Words.contains c.text comment = false
  policy : ∀ v, Words.contains (printedPolicy c v) comment = false

theorem isMark_transient (c : Chain) : IsMark c transientFilterRuleComment :=
  ⟨by decide, by decide, by decide, by decide, by decide, by cases c <;> decide,
    fun v => by cases c <;> cases v <;> decide⟩

theorem isMark_masquerade : IsMark .postrouting msqRuleComment :=
  ⟨by decide, by decide, by decide, by decide, by decide, by decide, fun v => by cases v <;> decide⟩

section Clear

variable {r : Env} {c : Chain} {comment : String}

theorem contains_printed (h : IsMark c comment) (l : Line) :
    Words.contains (printed c l) comment = carries comment l := by
  rw [Bool.eq_iff_iff, printed, Words.contains_join h.word h.nonempty]
  simp [carries, h.added, h.chain]

theorem carries_replaced (h : IsMark c comment) {w : String}
    (hw : Words.contains w comment = true) :
    Words.contains (Words.replaceAll w "-A" "-D") comment = true :=
  have hold : "-A".toList = '-' :: ['A'] := rfl
  Words.contains_replaceAll hold
    (fun _ hy => (List.mem_singleton.mp hy) ▸ h.capital) (List.cons_ne_nil _ _) h.nonempty h.dash hw

theorem isWord_chain (c : Chain) : Words.IsWord c.text := by cases c <;> decide

theorem replaceAll_printed (c : Chain) (l : Line) :
    Words.replaceAll (printed c l) "-A" "-D" =
      Words.join ("-D" :: c.text :: l.map (Words.replaceAll · "-A" "-D")) := by
  have hchain : Words.replaceAll c.text "-A" "-D" = c.text := by cases c <;> decide
  have hadded : Words.replaceAll "-A" "-A" "-D" = "-D" := by decide
  rw [printed, Words.replaceAll_join (by decide) (by decide), List.map_cons, List.map_cons, hadded,
    hchain]

/-- The command made from the printed line of a marked line deletes some marked line of
that chain; which one, depends on the words of the line. -/
theorem split_replaced (h : IsMark c comment) {l : Line} (hl : carries comment l = true) :
    ∃ l', Words.split (Words.replaceAll (printed c l) "-A" "-D") = "-D" :: c.text :: l' ∧
      carries comment l' = true := by
  obtain ⟨w, hw, hcontains⟩ := List.any_eq_true.mp hl
  have hne : l.map (Words.replaceAll · "-A" "-D") ≠ [] := by
    simpa using List.ne_nil_of_mem hw
  refine ⟨Words.split (Words.join (l.map (Words.replaceAll · "-A" "-D"))), ?_, ?_⟩
  · rw [replaceAll_printed, Words.split_join_cons (by decide) (List.cons_ne_nil _ _),
      Words.split_join_cons (isWord_chain c) hne]
  · rw [carries, List.any_eq_true]
    refine (Words.contains_join h.word h.nonempty _).mp ?_
    rw [Words.join_split, Words.contains_join h.word h.nonempty]
    exact ⟨_, List.mem_map_of_mem hw, carries_replaced h hcontains⟩

/-- Deleting a marked line leaves the others alone and takes one of the marked. -/
theorem filter_erase {l : Line} {ls : List Line} (hmem : l ∈ ls) (hl : carries comment l = true) :
    (ls.erase l).filter (!carries comment ·) = ls.filter (!carries comment ·) ∧
      ((ls.erase l).filter (carries comment ·)).length + 1 =
        (ls.filter (carries comment ·)).length := by
  constructor
  · rw [← List.erase_filter, List.erase_of_not_mem]
    simp [hl]
  · have hmarked : l ∈ ls.filter (carries comment ·) := List.mem_filter.mpr ⟨hmem, hl⟩
    rw [← List.erase_filter, List.length_erase_of_mem hmarked]
    exact Nat.sub_add_cancel (List.length_pos_of_mem hmarked)

/-- Deleting by the printed text of a marked line of the chain deletes that line. -/
def Tidy (c : Chain) (comment : String) (ls : List Line) : Prop :=
  ∀ l ∈ ls, carries comment l = true →
    Words.split (Words.replaceAll (printed c l) "-A" "-D") = "-D" :: c.text :: l

variable {tableArgs : List String} {deleting : String}

/-- The loop over printed lines: as many marked lines go as it comes across, and no
others. -/
theorem wp_clearLoop (h : IsMark c comment)
    (hdelete : ∀ l, readCommand (tableArgs ++ "-D" :: c.text :: l) = some (.delete c l))
    (ls : List Line) (s : State) :
    wp (forEach (fun line => when (Words.contains line comment) (context deleting
      (execute (tableArgs ++ Words.split (Words.replaceAll line "-A" "-D")))))
        (ls.map (printed c))) r any
      (fun x t => t.server = s.server ∧
        (x = .ok () → ∃ left, t.tables = s.tables.set c left ∧
          left.filter (!carries comment ·) = (s.tables.lines c).filter (!carries comment ·) ∧
          (left.filter (carries comment ·)).length + (ls.filter (carries comment ·)).length =
            ((s.tables.lines c).filter (carries comment ·)).length) ∧
        (r.Works → Tidy c comment ls → ls.Subperm (s.tables.lines c) → x = .ok ())) s := by
  induction ls generalizing s with
  | nil =>
    refine wp_forEach_nil.mpr ⟨rfl, fun _ => ⟨s.tables.lines c, ?_, rfl, rfl⟩, fun _ _ _ => rfl⟩
    rw [Tables.set_self]
  | cons l ls ih =>
    refine wp_forEach_cons.mpr (wp_when.mpr ⟨fun hl => ?_, fun hl => ?_⟩)
    · rw [contains_printed h] at hl
      obtain ⟨l', hsplit, hl'⟩ := split_replaced h hl
      have hsame (htidy : Tidy c comment (l :: ls)) : l' = l := by
        have hread := hsplit.symm.trans (htidy l List.mem_cons_self hl)
        simpa using hread
      rw [hsplit]
      refine wp_mapError.mpr (wp_post (wp_delete (hdelete l')) fun x t ht => ?_)
      obtain ⟨hserver, hok, herror⟩ := ht
      cases x with
      | error e =>
        refine ⟨hserver, nofun, fun hr htidy hsub => ?_⟩
        rcases (herror e rfl).2 with ⟨-, hfails⟩ | ⟨-, habsent⟩
        · exact absurd hr hfails
        · rw [hsame htidy] at habsent
          exact absurd (hsub.subset List.mem_cons_self) habsent
      | ok u =>
        obtain ⟨hmem, htables⟩ := hok rfl
        have hlines : t.tables.lines c = (s.tables.lines c).erase l' := by
          rw [htables, Tables.erase, Tables.set_same]
        rw [mapError_ok, onOk_ok]
        refine wp_post (ih t) fun x u hu => ⟨hu.1.trans hserver, fun hx => ?_, ?_⟩
        · obtain ⟨left, hleft, hothers, hcount⟩ := hu.2.1 hx
          obtain ⟨herase, hone⟩ := filter_erase hmem hl'
          rw [hlines] at hothers hcount
          refine ⟨left, ?_, hothers.trans herase, ?_⟩
          · rw [hleft, htables, Tables.erase, Tables.set_set]
          · rw [List.filter_cons, if_pos hl, List.length_cons]
            omega
        · intro hr htidy hsub
          have hrest := hsub.erase l
          rw [List.erase_cons_head] at hrest
          refine hu.2.2 hr (fun k hk => htidy k (List.mem_cons_of_mem l hk)) ?_
          rwa [hlines, hsame htidy]
    · rw [contains_printed h] at hl
      rw [onOk_ok]
      refine wp_post (ih s) fun x t ht => ⟨ht.1, fun hx => ?_, fun hr htidy hsub => ?_⟩
      · rw [List.filter_cons_of_neg (by simpa using hl)]
        exact ht.2.1 hx
      · exact ht.2.2 hr (fun k hk => htidy k (List.mem_cons_of_mem l hk))
          ((List.sublist_cons_self l ls).subperm.trans hsub)

/-- **Clearing by text.** Whatever the words of the lines are, if every delete
succeeds then all marked lines are gone and the others stay: each delete takes one
marked line, even where the rewritten text is not that of the line it came from. -/
theorem effect_clearLines (h : IsMark c comment) {listArgs : List String} {listing : String}
    (hlist : readCommand listArgs = some (.list c))
    (hdelete : ∀ l, readCommand (tableArgs ++ "-D" :: c.text :: l) = some (.delete c l)) :
    EffectOn r (fun t => Tidy c comment (t.lines c))
      (clearLines listArgs tableArgs comment listing deleting)
      fun t => t.set c ((t.lines c).filter (!carries comment ·)) := by
  intro s
  refine wp_bind.mpr (wp_mapError.mpr (wp_iptables hlist (fun tables output hexec => ?_)
    (fun _ hexec => nomatch hexec) fun hfails =>
      ⟨rfl, nofun, fun hr _ => nomatch (hr.fails _ _).symm.trans hfails⟩))
  cases hexec
  rw [mapError_ok, onOk_ok, Tables.printed]
  refine wp_forEach_cons.mpr (wp_when.mpr ⟨fun hp => ?_, fun _ => ?_⟩)
  · rw [h.policy] at hp
    cases hp
  · rw [onOk_ok]
    refine wp_post (wp_clearLoop h hdelete _ _) fun x t ht =>
      ⟨ht.1, fun hx => ?_, fun hr htidy => ht.2.2 hr htidy (List.Subperm.refl _)⟩
    obtain ⟨left, hleft, hothers, hcount⟩ := ht.2.1 hx
    have hnone : left.filter (carries comment ·) = [] :=
      List.length_eq_zero_iff.mp (Nat.add_eq_right.mp hcount)
    have hall : left.filter (!carries comment ·) = left := by
      rw [List.filter_eq_self]
      intro l hl
      by_contra hcarries
      have : l ∈ left.filter (carries comment ·) :=
        List.mem_filter.mpr ⟨hl, by simpa using hcarries⟩
      rw [hnone] at this
      cases this
    rw [hleft, ← hall, hothers]

end Clear

end NordVPN.ExitNode
