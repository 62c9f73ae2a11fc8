import NordVPN.Networker.Tracking

/-!
Procedures whose calls all succeed.

Most of what `Combined` does between its changes of state is to call dependencies.
`Passes` says of such a stretch that it succeeds and changes nothing; `Passes.next`
steps over it.
-/

namespace NordVPN.Networker

open NordVPN.Netip Prog

/-- The same fields, firewall and tunnel; only the log of calls may differ. -/
structure Same (w t : World) : Prop where
  netw : t.netw = w.netw
  fw : t.fw = w.fw
  tunnelUp : t.tunnelUp = w.tunnelUp

namespace Same

variable {w t u : World}

theorem refl (w : World) : Same w w := ⟨rfl, rfl, rfl⟩

theorem trans (h : Same w t) (h' : Same t u) : Same w u :=
  ⟨h'.netw.trans h.netw, h'.fw.trans h.fw, h'.tunnelUp.trans h.tunnelUp⟩

/-- What the invariants of the rules read is the same. -/
theorem core (h : Same w t) : t.core = w.core := by rw [World.core, World.core, h.netw, h.fw]

theorem link (h : Same w t) : t.link = w.link := by
  rw [World.link, World.link, h.netw, h.tunnelUp]

theorem names (h : Same w t) : t.names = w.names := by rw [World.names, World.names, h.fw]

theorem tracks (h : Same w t) (hw : Tracks w) : Tracks t := tracks_core.stays h.core hw

end Same

/-- `m` succeeds and changes nothing. -/
def Passes (r : Env) (m : Netw Unit) : Prop :=
  ∀ w, wp m r (fun _ => True) (fun x t => x = .ok () ∧ Same w t) w

namespace Passes

variable {r : Env} {m m' : Netw Unit}

/-- What comes after starts in the same state. -/
theorem next {α : Type} {f : Unit → Netw α} {Q : Except Error α → World → Prop} {w : World}
    (h : Passes r m) (hf : ∀ t, Same w t → wp (f ()) r any Q t) :
    wp (m >>= f) r any Q w :=
  wp_next (h w) fun t ht => hf t ht

/-- Procedures that pass may follow one another. -/
theorem seq (h : Passes r m) (h' : Passes r m') : Passes r (m >>= fun _ => m') := fun _ =>
  h.next fun t ht => wp_post (h' t) fun _ _ hu => ⟨hu.1, ht.trans hu.2⟩

theorem context {text : String} (h : Passes r m) : Passes r (context text m) :=
  fun w => wp_mapError_ok (h w)

theorem ignore (h : Passes r m) : Passes r (ignore m) :=
  fun w => wp_ignore.mpr (wp_post (h w) fun _ _ ht => ⟨rfl, ht.2⟩)

theorem when {c : Bool} (h : Passes r m) : Passes r (when c m) :=
  fun w => wp_when.mpr ⟨fun _ => h w, fun _ => ⟨rfl, .refl w⟩⟩

theorem netw {f : Combined → Netw Unit} (h : ∀ c, Passes r (f c)) : Passes r (netw >>= f) :=
  fun w => wp_netw_bind.mpr (h _ w)

/-- A question is answered without a trace, whatever the answer. -/
theorem ask {α : Type} {c : Call} {answer : Env → Nat → α} {f : α → Netw Unit}
    (hc : c.isQuiet = true) (h : ∀ a, Passes r (f a)) :
    Passes r (Networker.ask c answer >>= f) := by
  intro w
  refine wp_bind.mpr (wp_ask.mpr ⟨trivial, ?_⟩)
  have hsame : Same w (w.after r c false) :=
    ⟨rfl, rfl, congrArg Link.tunnelUp (link_after hc w r _)⟩
  rw [onOk_ok]
  exact wp_post (h _ _) fun _ _ ht => ⟨ht.1, hsame.trans ht.2⟩

/-- A call that cannot fail and has no effect on rules or tunnel. -/
theorem call_of {c : Call} (hr : ∀ n, r.fails n c = false)
    (hc : c.isQuiet = true) : Passes r (Networker.call c) := by
  intro w
  rw [wp_call, hr]
  exact ⟨trivial, rfl, rfl, rfl, congrArg Link.tunnelUp (link_after hc w r _)⟩

/-- A call whose error is dropped passes whatever it answers. -/
theorem ignore_call (c : Call) (hc : c.isQuiet = true) :
    Passes r (Prog.ignore (Networker.call c)) := by
  intro w
  apply wp_ignore.mpr
  apply wp_call.mpr
  exact ⟨trivial, rfl, rfl, rfl, congrArg Link.tunnelUp (link_after hc w r _)⟩

variable (hr : ∀ n c, r.fails n c = false)
include hr

theorem call (c : Call) (hc : c.isQuiet = true) : Passes r (call c) := call_of (fun n => hr n c) hc

theorem setDNS (nameservers : List String) : Passes r (setDNS nameservers) :=
  netw fun _ => (call hr _ rfl).context

theorem unsetDNS : Passes r unsetDNS := netw fun _ => (call hr _ rfl).context

theorem setupRoutingRules (ipv6 : Bool) (subnets : List String) :
    Passes r (setupRoutingRules ipv6 subnets) :=
  netw fun _ => call hr _ rfl

/-- With working dependencies the default route is added. -/
theorem addDefaultRoute : Passes r addDefaultRoute :=
  netw fun _ => ask rfl fun _ => (call hr _ rfl).context

/-- The nameservers of the server or the given ones, on whichever device. -/
theorem configureDNS (serverData : ServerData) (nameservers : List String) :
    Passes r (configureDNS serverData nameservers) := by
  refine netw fun _ => ?_
  split
  · exact setDNS hr _
  · exact setDNS hr _

theorem fixForLinuxMint20 : Passes r fixForLinuxMint20 :=
  netw fun _ => (setDNS hr _).seq (setDNS hr _)

end Passes

section

variable {r : Env} (hr : r.Succeeds)
include hr

/-- The devices are listed and nothing changes. -/
theorem devices_working (w : World) :
    wp devices r any (fun x t => ∃ ifaces, x = .ok ifaces ∧ Same w t) w := by
  rw [wp_devices, hr.calls]
  exact ⟨trivial, _, rfl, rfl, rfl, rfl⟩

theorem Env.Succeeds.addsMesh : r.AddsMesh :=
  ⟨fun _ _ _ _ _ => hr.agent _ _ _, fun _ _ _ _ _ => hr.agent _ _ _, fun _ _ _ => hr.agent _ _ _⟩

theorem Env.Succeeds.deletesMesh : r.DeletesMesh := fun _ _ _ => hr.agent _ _ _

end

end NordVPN.Networker
