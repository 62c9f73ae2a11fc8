import NordVPN.Firewall.PortMatch

/-!
The grouping of ports into ranges.

The iptables agent and the firewall manager have a copy each of the same loop. It sorts the ports
and compares each one with the port before it, which it finds by the index in the slice without the
first port, and appends the last range after the loop.
-/

namespace NordVPN

/-- One turn of the loop: `i` is the index of `port` in `ports[1:]`. -/
def FirewallManager.grouped (ports : List Int) : List PortRange × PortRange → Int × Nat →
    List PortRange × PortRange
  | (ranges, r), (port, i) =>
    if ports[i]?.map (· + 1) = some port then (ranges, { r with max := port })
    else (ranges ++ [r], ⟨port, port⟩)

/-- `portsToPortRanges` of the firewall manager. -/
def FirewallManager.portsToPortRanges (ports : List Int) : List PortRange :=
  let ports := ports.insertionSort (· ≤ ·)
  match ports with
  | [] => []
  | pPort :: rest =>
    let (ranges, r) := rest.zipIdx.foldl (grouped ports) ([], ⟨pPort, pPort⟩)
    ranges ++ [r]

example : FirewallManager.portsToPortRanges [6, 5, 4, 5] = [⟨4, 5⟩, ⟨5, 6⟩] := by decide

section

variable {r range : PortRange} {prev : Int} {ports rest : List Int}

/-- The port at the shifted index is the one before, so the loop by index is the loop that carries
the port before. -/
theorem FirewallManager.foldl_grouped (before : List Int) (ranges : List PortRange)
    (hports : ports = before ++ prev :: rest) :
    ((rest.zipIdx before.length).foldl (grouped ports) (ranges, r)).1 ++
        [((rest.zipIdx before.length).foldl (grouped ports) (ranges, r)).2] =
      ranges ++ portRangesFrom r prev rest := by
  induction rest generalizing before prev ranges r with
  | nil => rfl
  | cons port rest ih =>
    have hprev : ports[before.length]? = some prev := by simp [hports]
    have ih {ranges r} := ih (r := r) (before ++ [prev]) ranges
      (hports.trans (List.append_cons before prev (port :: rest)))
    rw [List.length_append, List.length_singleton] at ih
    rw [List.zipIdx_cons, List.foldl_cons]
    simp only [grouped, portRangesFrom, hprev, Option.map_some, Option.some.injEq]
    by_cases hport : port = prev + 1
    · rw [if_pos hport.symm, if_pos hport, ih]
    · rw [if_neg (Ne.symm hport), if_neg hport, ih, ← List.append_cons]

theorem FirewallManager.portsToPortRanges_eq (ports : List Int) :
    portsToPortRanges ports = NordVPN.portsToPortRanges ports := by
  unfold portsToPortRanges NordVPN.portsToPortRanges
  cases hsort : ports.insertionSort (· ≤ ·) with
  | nil => rfl
  | cons pPort rest => exact foldl_grouped [] [] rfl

/-- A range ends no earlier than it begins, and it begins where the first one does or at a later
port. -/
theorem nonempty_portRangesFrom (hmax : r.max = prev) (hmin : r.min ≤ prev)
    (h : range ∈ portRangesFrom r prev rest) :
    range.min ≤ range.max ∧ (range.min = r.min ∨ range.min ∈ rest) := by
  induction rest generalizing r prev with
  | nil =>
    obtain rfl := List.mem_singleton.mp h
    exact ⟨hmax ▸ hmin, .inl rfl⟩
  | cons port rest ih =>
    unfold portRangesFrom at h
    split at h
    · obtain ⟨hle, hbegin⟩ := ih rfl (show r.min ≤ port by omega) h
      exact ⟨hle, hbegin.imp_right (List.mem_cons_of_mem port)⟩
    · rcases List.mem_cons.mp h with rfl | h
      · exact ⟨hmax ▸ hmin, .inl rfl⟩
      · obtain ⟨hle, hbegin⟩ := ih rfl (Int.le_refl port) h
        exact ⟨hle, .inr (List.mem_cons.mpr hbegin)⟩

/-- The end of a range and the begin of a later one stand in the list in that order. -/
theorem pairwise_portRangesFrom {R : Int → Int → Prop} (hmax : r.max = prev)
    (h : (prev :: rest).Pairwise R) :
    (portRangesFrom r prev rest).Pairwise fun a b => R a.max b.min := by
  induction rest generalizing r prev with
  | nil => exact List.pairwise_singleton _ _
  | cons port rest ih =>
    obtain ⟨hprev, hrest⟩ := List.pairwise_cons.mp h
    unfold portRangesFrom
    split
    · exact ih rfl hrest
    · refine List.pairwise_cons.mpr ⟨?_, ih rfl hrest⟩
      intro b hb
      rw [hmax]
      exact hprev _ (List.mem_cons.mpr (nonempty_portRangesFrom rfl (Int.le_refl port) hb).2)

theorem nonempty_portsToPortRanges (h : range ∈ portsToPortRanges ports) :
    range.min ≤ range.max := by
  unfold portsToPortRanges at h
  split at h
  · cases h
  · exact (nonempty_portRangesFrom rfl (Int.le_refl _) h).1

theorem pairwise_portsToPortRanges {R : Int → Int → Prop}
    (h : (ports.insertionSort (· ≤ ·)).Pairwise R) :
    (portsToPortRanges ports).Pairwise fun a b => R a.max b.min := by
  unfold portsToPortRanges
  split
  · exact List.Pairwise.nil
  · rename_i hsort
    rw [hsort] at h
    exact pairwise_portRangesFrom rfl h

/-- Without duplicates a range begins where the port before is not listed. -/
theorem before_notMem (hnodup : ports.Nodup) (h : range ∈ portsToPortRanges ports) :
    range.min - 1 ∉ ports := by
  obtain ⟨-, hbegin | htwice⟩ := begins_portsToPortRanges.mp ⟨range, h, rfl⟩
  · exact hbegin
  · have := List.nodup_iff_count_le_one.mp hnodup range.min
    omega

/-- Without duplicates some port stands between two ranges. -/
theorem apart_portsToPortRanges (hnodup : ports.Nodup) :
    (portsToPortRanges ports).Pairwise fun a b => a.max + 1 < b.min := by
  have hsorted := List.pairwise_insertionSort (· ≤ ·) ports
  have hstrict : (ports.insertionSort (· ≤ ·)).Pairwise (· < ·) :=
    hsorted.imp₂ (fun _ _ => lt_of_le_of_ne)
      ((List.perm_insertionSort _ ports).nodup_iff.mpr hnodup)
  apply (pairwise_portsToPortRanges hstrict).imp_of_mem
  intro a b ha hb hlt
  have hlast := within_portsToPortRanges ha a.max (nonempty_portsToPortRanges ha) (Int.le_refl _)
  have hbefore := before_notMem hnodup hb
  have hne : a.max ≠ b.min - 1 := fun heq => hbefore (heq ▸ hlast)
  omega

/-- Ranges that have exactly the same ports are no fewer: one of them begins with each of these. -/
theorem length_portsToPortRanges_le (hnodup : ports.Nodup) (cover : List PortRange)
    (hcover : ∀ port, port ∈ ports ↔ ∃ range ∈ cover, range.Has port) :
    (portsToPortRanges ports).length ≤ cover.length := by
  have hbegins : ((portsToPortRanges ports).map (·.min)).Nodup := by
    refine List.Pairwise.map _ (fun _ _ => id) ((apart_portsToPortRanges hnodup).imp_of_mem ?_)
    intro a b ha _ hlt
    have := nonempty_portsToPortRanges ha
    omega
  have hsub : (portsToPortRanges ports).map (·.min) ⊆ cover.map (·.min) := by
    intro port hport
    obtain ⟨range, hrange, rfl⟩ := List.mem_map.mp hport
    have hbefore := before_notMem hnodup hrange
    have hmem := (mem_iff_portsToPortRanges ports _).mpr
      ⟨range, hrange, Int.le_refl _, nonempty_portsToPortRanges hrange⟩
    obtain ⟨wide, hwide, hhas⟩ := (hcover _).mp hmem
    rw [hcover] at hbefore
    refine List.mem_map.mpr ⟨wide, hwide, Int.le_antisymm hhas.1 ?_⟩
    by_contra hlater
    exact hbefore ⟨wide, hwide, by omega, by have := hhas.2; omega⟩
  simpa using (hbegins.subperm hsub).length_le

end

/-- The ranges have exactly the listed ports and are in ascending order. Without duplicates there is
a port between any two of them and no fewer ranges would do. The two copies return the same, and the
order of the ports does not count. -/
theorem portsToPortRanges_exact (ports : List Int) :
    (∀ port, port ∈ ports ↔ ∃ range ∈ portsToPortRanges ports, range.Has port) ∧
      (∀ range ∈ portsToPortRanges ports, range.min ≤ range.max) ∧
      ((portsToPortRanges ports).Pairwise fun a b => a.max ≤ b.min) ∧
      (ports.Nodup → ((portsToPortRanges ports).Pairwise fun a b => a.max + 1 < b.min) ∧
        ∀ cover : List PortRange, (∀ port, port ∈ ports ↔ ∃ range ∈ cover, range.Has port) →
          (portsToPortRanges ports).length ≤ cover.length) ∧
      FirewallManager.portsToPortRanges ports = portsToPortRanges ports ∧
      ∀ others : List Int, others.Perm ports →
      portsToPortRanges others = portsToPortRanges ports := by
  refine ⟨mem_iff_portsToPortRanges ports, fun _ => nonempty_portsToPortRanges,
    pairwise_portsToPortRanges (List.pairwise_insertionSort _ ports),
    fun hnodup => ⟨apart_portsToPortRanges hnodup, length_portsToPortRanges_le hnodup⟩,
    FirewallManager.portsToPortRanges_eq ports, ?_⟩
  intro others hperm
  have hsort : others.insertionSort (· ≤ ·) = ports.insertionSort (· ≤ ·) :=
    List.Perm.eq_of_pairwise'
      (List.pairwise_insertionSort _ others) (List.pairwise_insertionSort _ ports)
      ((List.perm_insertionSort _ others).trans
        (hperm.trans (List.perm_insertionSort _ ports).symm))
  rw [portsToPortRanges, hsort, portsToPortRanges]

end NordVPN
