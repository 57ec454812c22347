/-
# A URB that is dequeued

`virtusb_hcd_urb_dequeue` takes the one request of its URB out of whichever list it is in, gives
the URB back once and leaves everything else as it was; a URB that it does not find queued keeps
its place in the world (`dequeue_exact`).  The transfer never comes back to a queue, so its
backend hears of it only as an id that is not there.
-/

import VirtUsb.Serving.Completion
import VirtUsb.Serving.Release
import VirtUsb.Serving.Stale

namespace VirtUsb

open World Transition

/-- From `w` to `w'` the request `r` was taken out at controller `h` and its URB given back. -/
structure RequestDequeued (N : ℕ) (h : HcdId) (r : Request) (status : ℤ) (w w' : World) :
    Prop where
  pending : (w'.backends h).pending = (w.backends h).pending.filter fun r' => r' ≠ r
  active : (w'.backends h).active = (w.backends h).active.filter fun r' => r' ≠ r
  bindings : (w'.backends h).bindings = (w.backends h).bindings
  stopping : (w'.backends h).stopping = (w.backends h).stopping
  others : ∀ h', h' ≠ h → w'.backends h' = w.backends h'
  unqueued : w'.Unqueued N r.transfer
  transfers : ∀ h' < N, ∀ r' ∈ w'.requests h', w'.transfers r'.transfer = w.transfers r'.transfer
  givebacks : w'.givebacks = w.givebacks ++ [⟨r.urb, status⟩]
  urbs : w'.urbs = Function.update w.urbs r.urb
    { w.urbs r.urb with linked := false, unlinked := true }
  status : (w'.transfers r.transfer).status = status
  copies : w'.copies = w.copies
  management : w'.management = w.management

namespace World

variable {N : ℕ} {w w' : World} {h : HcdId} {u : UrbPtr} {r : Request} {status : ℤ}

/-- The URB of a request that is queued, and not being unlinked yet, is found. -/
theorem cancelLocked_found (hs : w.Serving N) (hh : h < N) (hr : r ∈ w.requests h)
    (hlinked : (w.urbs r.urb).linked = true) (hunlinked : (w.urbs r.urb).unlinked = false) :
    ∃ v, w.cancelLocked h r.urb = (v, .ok r) ∧ v.transfers = w.transfers ∧
      v.io = (Function.update w.urbs r.urb
        { w.urbs r.urb with linked := false, unlinked := true }, w.copies) := by
  have hcheck : w.usbHcdCheckUnlinkUrb r.urb =
      (w.setUrb r.urb { w.urbs r.urb with unlinked := true }, .ok ()) := by
    simp [usbHcdCheckUnlinkUrb, hlinked, hunlinked]
  -- no other request is for this URB
  have honly : ∀ r' ∈ w.requests h, r'.urb = r.urb → r' = r := fun r' hr' heq =>
    List.inj_on_of_nodup_map (hs.nodup_urbs hh) hr' hr heq
  have hfind : ∀ {l : List Request}, (∀ r' ∈ l, r' ∈ w.requests h) →
      l.find? (fun r' => r'.urb = r.urb) = if r ∈ l then some r else none := by
    intro l hsub
    split
    · rename_i hin
      rcases hf : l.find? fun r' => r'.urb = r.urb with _ | r'
      · exact absurd (List.find?_eq_none.1 hf r hin) (by simp)
      · have hmem := List.mem_of_find?_eq_some hf
        have hsame : r' = r := honly r' (hsub r' hmem) (by simpa using List.find?_some hf)
        rw [hf, hsame]
    · rename_i hout
      refine List.find?_eq_none.2 fun r' hr' heq => hout ?_
      have hsame : r' = r := honly r' (hsub r' hr') (by simpa using heq)
      exact hsame ▸ hr'
  have hfound : (w.backends h).findUrbLocked r.urb = some r := by
    rw [Backend.findUrbLocked, hfind fun r' hr' => List.mem_append_left _ hr',
      hfind fun r' hr' => List.mem_append_right _ hr']
    rcases List.mem_append.1 hr with hin | hin
    · simp [hin]
    · by_cases hpending : r ∈ (w.backends h).pending <;> simp [hin, hpending]
  set marked := w.setUrb r.urb { w.urbs r.urb with unlinked := true } with hmarked
  have hback : marked.backends = w.backends := rfl
  refine ⟨(marked.setBackend h ((w.backends h).listDel r)).usbHcdUnlinkUrbFromEp r.urb, ?_, rfl,
    Prod.ext ?_ rfl⟩
  · simp only [cancelLocked, hcheck, hback, hfound]
  · simp [io, hmarked, setBackend, usbHcdUnlinkUrbFromEp, setUrb, Function.update_idem]

/-- A URB that the core has not linked, or is unlinking, or that is queued nowhere here. -/
theorem backendCancel_refused (hno : ¬ ((w.urbs u).linked = true ∧ (w.urbs u).unlinked = false ∧
    ∃ r ∈ w.requests h, r.urb = u)) :
    ∃ e, w.backendCancel h u status =
      (if (w.urbs u).linked = true ∧ (w.urbs u).unlinked = false
        then w.setUrb u { w.urbs u with unlinked := true } else w, .error e) := by
  rcases hlinked : (w.urbs u).linked
  · exact ⟨.EIDRM, by simp [backendCancel, cancelLocked, usbHcdCheckUnlinkUrb, hlinked]⟩
  rcases hunlinked : (w.urbs u).unlinked
  swap
  · exact ⟨.EBUSY, by simp [backendCancel, cancelLocked, usbHcdCheckUnlinkUrb, hlinked, hunlinked]⟩
  have hnone : (w.backends h).findUrbLocked u = none := by
    have hout : ∀ r ∈ w.requests h, r.urb ≠ u := fun r hr heq =>
      hno ⟨hlinked, hunlinked, r, hr, heq⟩
    rw [Backend.findUrbLocked, List.find?_eq_none.2, List.find?_eq_none.2, Option.or_none]
    · exact fun r hr => by simpa using hout r (List.mem_append_right _ hr)
    · exact fun r hr => by simpa using hout r (List.mem_append_left _ hr)
  have hcheck : w.usbHcdCheckUnlinkUrb u =
      (w.setUrb u { w.urbs u with unlinked := true }, .ok ()) := by
    simp [usbHcdCheckUnlinkUrb, hlinked, hunlinked]
  have hnone' : ((w.setUrb u { w.urbs u with unlinked := true }).backends h).findUrbLocked u =
      none := hnone
  exact ⟨.EIDRM, by simp only [backendCancel, cancelLocked, hcheck, hnone', and_self, if_true]⟩

end World

/-- A request is taken out of the list that it is in. -/
theorem listDel_eq_filter {b : Backend} {r : Request} (hnodup : (b.pending ++ b.active).Nodup)
    (hr : r ∈ b.pending ++ b.active) :
    (b.listDel r).pending = b.pending.filter (fun r' => r' ≠ r) ∧
      (b.listDel r).active = b.active.filter fun r' => r' ≠ r := by
  obtain ⟨hpending, hactive, hdisjoint⟩ := List.nodup_append.1 hnodup
  have herase : ∀ {l : List Request}, l.Nodup → l.erase r = l.filter fun r' => r' ≠ r := by
    intro l hl
    rw [hl.erase_eq_filter]
    exact List.filter_congr fun r' _ => by by_cases heq : r' = r <;> simp [heq]
  have hout : ∀ {l : List Request}, r ∉ l → l.filter (fun r' => r' ≠ r) = l := by
    intro l hl
    refine List.filter_eq_self.2 fun r' hr' => decide_eq_true ?_
    rintro rfl
    exact hl hr'
  rw [Backend.listDel]
  split
  · rename_i hin
    have hother : r ∉ b.active := fun h => hdisjoint r hin r h rfl
    exact ⟨herase hpending, (hout hother).symm⟩
  · rename_i hin
    exact ⟨(hout hin).symm, herase hactive⟩

/-- What a dequeue does to the request of its URB. -/
theorem RequestDequeued.of_found {N : ℕ} {w : World} {h : HcdId} {r : Request} {status : ℤ}
    (hs : w.Steady N) (hw : w.Serving N) (hh : h < N) (hr : r ∈ w.requests h)
    (hlinked : (w.urbs r.urb).linked = true) (hunlinked : (w.urbs r.urb).unlinked = false) :
    (w.hcdUrbDequeue h r.urb status).2 = .ok () ∧
      RequestDequeued N h r status w (w.hcdUrbDequeue h r.urb status).1 := by
  obtain ⟨v, hlocked, htransfers, hio⟩ := cancelLocked_found hw hh hr hlinked hunlinked
  have hdone : w.hcdUrbDequeue h r.urb status = (v.cancelTail r status, .ok ()) := by
    rw [hcdUrbDequeue, backendCancel, hlocked]
  have ha' := hs.accounts.backendCancel hh r.urb status
  have haside := Aside.backendCancel (h := h) w r.urb status
  rw [show w.backendCancel h r.urb status = _ from hdone] at ha' haside
  rw [hdone]
  obtain ⟨-, -, hq⟩ := cancelLocked_ok (T := {r.transfer}) hlocked
  have htail : Quiet {r.transfer} [⟨r.urb, status⟩] v (v.cancelTail r status) :=
    .cancelTail v (Set.mem_singleton r.transfer) status
  have hlengths : (v.cancelTail r status).lengths = w.lengths := by
    rw [cancelTail, lengths_backendGiveback, lengths_transferCancel]
    exact (congrArg (fun x : World × Except Errno Request => x.1.lengths) hlocked).symm.trans
      (w.lengths_cancelLocked h r.urb)
  have hrelists : Relists h {r.transfer} [⟨r.urb, status⟩] ((w.backends h).listDel r) w
      (v.cancelTail r status) := ⟨⟨_, hq.after htail⟩, hlengths⟩
  have hback := hrelists.backends
  have hio' : (v.cancelTail r status).io = v.io :=
    (io_backendGiveback _ r status).trans (io_transferCancel v r.transfer status)
  obtain ⟨hpending, hactive⟩ := listDel_eq_filter ((hw.nodup h hh).of_map _) hr
  have hself : (v.cancelTail r status).backends h = (w.backends h).listDel r := by
    rw [hback, Function.update_self]
  have hother : ∀ h', h' ≠ h → (v.cancelTail r status).backends h' = w.backends h' :=
    fun h' hne => by rw [hback, Function.update_of_ne hne]
  refine ⟨rfl, by rw [hself, hpending], by rw [hself, hactive], ?_, ?_, hother,
    fun h' hh' r' hr' heq => ?_, fun h' hh' r' hr' => ?_, hrelists.givebacks, ?_, ?_, ?_,
    haside.management⟩
  · rw [hself, Backend.listDel]
    split <;> rfl
  · rw [hself, Backend.listDel]
    split <;> rfl
  · -- only `r` had its transfer, and it is in no list any more
    rcases eq_or_ne h' h with rfl | hne
    · rw [requests, hself, hpending, hactive, ← List.filter_append, List.mem_filter,
        decide_eq_true_eq] at hr'
      exact hr'.2 (List.inj_on_of_nodup_map (hw.nodup h' hh) hr'.1 hr heq)
    · rw [requests, hother h' hne] at hr'
      exact hne (hw.distinct h' hh' h hh r' hr' r hr (.inl heq)).1
  · exact hw.transfer_eq hh (.cancelled r status hr) hrelists hs.accounts ha' hh' hr'
  · exact (congrArg Prod.fst hio').trans (congrArg Prod.fst hio)
  · have hgiven : Quiet ∅ _ (v.transferCancel r.transfer status).1 (v.cancelTail r status) :=
      .backendGiveback ..
    have hstate : (v.transfers r.transfer).state = .queued :=
      htransfers ▸ (hw.loaded h hh r hr).2.state
    have hout : ((v.transferCancel r.transfer status).1.transfers r.transfer).status = status := by
      simp [transferCancel, hstate, setTransfer]
    have hkept := hgiven.content r.transfer (Set.notMem_empty _)
    exact Eq.trans (congrArg Transfer.status hkept :) hout
  · exact (congrArg Prod.snd hio').trans (congrArg Prod.snd hio)

/-- **A dequeue takes exactly its own URB.**  A URB that the core has linked and is not unlinking,
and that is queued here, is given back once with the status of the dequeue: its request is taken
out of its list, all others stay as they are and in their order, and in no later state of any run
is its transfer in a queue again.  Otherwise the dequeue fails, and all that changed is the mark
that `usb_hcd_check_unlink_urb` leaves. -/
theorem dequeue_exact {N : ℕ} {w : World} (hw : (calls N).Reachable w) {h : HcdId} (hh : h < N)
    (u : UrbPtr) (status : ℤ) :
    (∀ r ∈ w.requests h, r.urb = u → (w.urbs u).linked = true → (w.urbs u).unlinked = false →
      (w.hcdUrbDequeue h u status).2 = .ok () ∧
      RequestDequeued N h r status w (w.hcdUrbDequeue h u status).1 ∧
      ∀ l w', Run (calls N) (w.hcdUrbDequeue h u status).1 l w' → w'.Unqueued N r.transfer) ∧
    (¬ ((w.urbs u).linked = true ∧ (w.urbs u).unlinked = false ∧
        ∃ r ∈ w.requests h, r.urb = u) →
      ∃ e, w.hcdUrbDequeue h u status =
        (if (w.urbs u).linked = true ∧ (w.urbs u).unlinked = false
          then w.setUrb u { w.urbs u with unlinked := true } else w, .error e)) := by
  have hsteady := steady_of_reachable hw
  have hserving := serving_of_reachable hw
  refine ⟨fun r hr hu hlinked hunlinked => ?_, backendCancel_refused⟩
  subst hu
  obtain ⟨hok, hdequeued⟩ : (w.hcdUrbDequeue h r.urb status).2 = .ok () ∧
      RequestDequeued N h r status w (w.hcdUrbDequeue h r.urb status).1 :=
    RequestDequeued.of_found hsteady hserving hh hr hlinked hunlinked
  refine ⟨hok, hdequeued, fun l w' hrun => ?_⟩
  have hstep : (calls N).step w (.urbDequeue h r.urb status) (w.hcdUrbDequeue h r.urb status).1 :=
    if_pos ⟨hh, trivial⟩
  refine hdequeued.unqueued.run (hw.step hstep) ?_ hrun
  exact (hserving.loaded h hh r hr).1.trans_le (kept_of_run hw (.single hstep)).1

/-- The first of two URBs is dequeued after it was fetched. -/
theorem dequeue_exact_example : ∃ w, (calls 1).Reachable w ∧
    (w.hcdUrbDequeue 0 7 (-104)).1.givebacks = w.givebacks ++ [⟨7, -104⟩] ∧
    ((w.hcdUrbDequeue 0 7 (-104)).1.backends 0).pending = [⟨8, 1, none⟩] ∧
    ((w.hcdUrbDequeue 0 7 (-104)).1.backends 0).active = [] := by
  obtain ⟨w, hw, hp⟩ := exists_reachable_of_exec (I := Initialised)
    (f := fun w c => if Call.Possible 1 w c then some (w.call c) else none) (s := oneHub)
    (l := Call.plugIn 5 ++ [.urbEnqueue 0 7 .bulkIn {}, .urbEnqueue 0 8 .bulkIn {},
      .ioctl 0 true 5 true ioctlTransferFetch (.ofWords []) {}])
    (p := fun w => (w.backends 0).pending = [⟨8, 1, none⟩] ∧
      (w.backends 0).active = [⟨7, 0, some 5⟩] ∧ (w.urbs 7).linked ∧ !(w.urbs 7).unlinked)
    oneHub_initialised (by decide)
  obtain ⟨hpending, hactive, hlinked, hunlinked⟩ := of_decide_eq_true hp
  have hr : (⟨7, 0, some 5⟩ : Request) ∈ w.requests 0 :=
    List.mem_append_right _ (hactive ▸ List.mem_singleton_self _)
  obtain ⟨-, hdequeued, -⟩ := (dequeue_exact hw Nat.one_pos 7 (-104)).1 _ hr rfl hlinked
    (by simpa using hunlinked)
  refine ⟨w, hw, hdequeued.givebacks, ?_, ?_⟩
  · rw [hdequeued.pending, hpending]
    decide
  · rw [hdequeued.active, hactive]
    decide

end VirtUsb
