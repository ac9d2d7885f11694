import Readiness.Proofs.HostCalls

/-!
What a call on a host can change: the answers that its fact concerns, each of them after some calls,
and no other answer after any. And what the answers about one path have to do with each other.
-/

namespace Readiness.FixedHost

section Changes

variable {c : Call} {q : Question}

/-- After some calls another one changes what a question is answered. -/
def Call.Changes (c : Call) (q : Question) : Prop :=
  ∃ before, (ofCalls (before ++ [c])).answer q ≠ (ofCalls before).answer q

theorem changes_of_answers {a b : Except ProbeError q.Answer} (before : List Call)
    (hbefore : (ofCalls before).answer q = a) (hafter : (c.apply (ofCalls before)).answer q = b)
    (hne : b ≠ a) : c.Changes q := by
  refine ⟨before, ?_⟩
  rwa [ofCalls_concat, hbefore, hafter]

theorem changes_storeKey {key : String} (hc : c.fact.Concerns (.storeKey key)) :
    c.Changes (.storeKey key) := by
  have hbare : (ofCalls []).answer (.storeKey key) = .ok none := rfl
  have hheld : (ofCalls [.storeKey key]).answer (.storeKey key) = .ok (some {}) :=
    (storeKey_withStoreKey bare key key).trans (if_pos rfl)
  obtain ⟨name, value, rfl⟩ | rfl | rfl | ⟨e, rfl⟩ := concerns_storeKey_iff.mp hc
  · exact changes_of_answers [] hbare
      ((storeKey_withStoreValue bare key key name value).trans (if_pos rfl)) (by simp)
  · exact changes_of_answers [] hbare hheld (by simp)
  · exact changes_of_answers [.storeKey key] hheld
      ((storeKey_withoutStoreKey _ key key).trans (if_pos rfl)) (by simp)
  · exact changes_of_answers [] hbare
      ((storeKey_put bare key key (.error e)).trans (if_pos rfl)) (fun h => by cases h)

theorem changes_os (hc : c.fact = .os) : c.Changes .osVersion := by
  cases c with
  | osVersion _ =>
      exact changes_of_answers [.osError (.unavailable "")] rfl rfl (fun h => by cases h)
  | osError _ => exact changes_of_answers [] rfl rfl (fun h => by cases h)
  | _ => cases hc

theorem changes_elevation (hc : c.fact = .elevation) : c.Changes .isElevated := by
  cases c with
  | elevated _ =>
      exact changes_of_answers [.elevationError (.unavailable "")] rfl rfl (fun h => by cases h)
  | elevationError _ => exact changes_of_answers [] rfl rfl (fun h => by cases h)
  | _ => cases hc

theorem changes_space (hc : c.fact = .space) (p : Path) : c.Changes (.availableSpace p) := by
  cases c with
  | space _ =>
      exact changes_of_answers [.spaceError (.unavailable "")] rfl rfl (fun h => by cases h)
  | spaceError _ => exact changes_of_answers [] rfl rfl (fun h => by cases h)
  | _ => cases hc

theorem changes_ports (hc : c.fact = .ports) : c.Changes .listeningPorts := by
  cases c with
  | listener _ | portsError _ => exact changes_of_answers [] rfl rfl (fun h => by cases h)
  | _ => cases hc

theorem changes_file {p r : Path} (hc : c.fact = .file p) (hr : p.components = r.components) :
    c.Changes (.pathExists r) := by
  cases c with
  | file p =>
      cases hc
      have hthere := (pathExists_withFile bare p r).trans
        (by rw [Path.same_iff.mpr hr, Bool.true_or])
      exact changes_of_answers [] rfl (congrArg Except.ok hthere) (fun h => by cases h)
  | _ => cases hc

/-- A call about a directory sets what is found there, in another way than after some calls. -/
theorem sets_dir {p r : Path} (hc : c.fact = .dir p) (hr : p.components = r.components) :
    ∃ found before, (∀ h, c.apply h = { h with dirs := put Path.same p found h.dirs }) ∧
      found ≠ (ofCalls before).answer (.listDir r) := by
  cases c with
  | dir p entries =>
      cases hc
      exact ⟨_, [], fun h => rfl, fun h => by cases h⟩
  | unreadableDir p e =>
      cases hc
      refine ⟨_, [.dir p []], fun h => rfl, fun h => ?_⟩
      cases h.trans (answer_putDir bare p r (.ok []) hr).2.2
  | _ => cases hc

theorem changes_dir {p : Path} (hc : c.fact = .dir p) (hq : (Fact.dir p).Concerns q) :
    c.Changes q := by
  obtain ⟨r, hquestion, hr⟩ := concerns_dir_iff.mp hq
  obtain ⟨found, before, hset, hne⟩ := sets_dir hc hr
  have hafter (before : List Call) :=
    (hset (ofCalls before)).symm ▸ answer_putDir (ofCalls before) p r found hr
  obtain rfl | rfl | rfl := hquestion
  · exact changes_of_answers [] rfl (hafter []).1 (fun h => by cases h)
  · exact changes_of_answers [] rfl (hafter []).2.1 (fun h => by cases h)
  · exact changes_of_answers before rfl (hafter before).2.2 hne

theorem changes_tool {program : String} (hc : c.fact = .tool program) (args : List String)
    (limit : Time.Span) : c.Changes (.runTool program args limit) := by
  have hgiven : (ofCalls [.tool program (.ok "")]).answer (.runTool program args limit) =
      .ok (.ok "") := (runTool_put bare program program _).trans (if_pos rfl)
  cases c with
  | tool program output =>
      cases hc
      exact changes_of_answers [] rfl ((runTool_put bare program program _).trans (if_pos rfl))
        (fun h => by cases h)
  | toolError program e =>
      cases hc
      exact changes_of_answers [.tool program (.ok "")] hgiven
        ((runTool_put _ program program _).trans (if_pos rfl)) (fun h => by cases h)
  | noTool program =>
      cases hc
      exact changes_of_answers [.tool program (.ok "")] hgiven
        ((runTool_withoutTool _ program program).trans (if_pos rfl)) (fun h => by cases h)
  | _ => cases hc

/-- Each answer that the fact of a call concerns is changed by it after some calls. -/
theorem changes_of_concerns (hq : c.fact.Concerns q) : c.Changes q := by
  cases hc : c.fact with
  | os =>
      obtain rfl := concerns_os_iff.mp (hc ▸ hq)
      exact changes_os hc
  | elevation =>
      obtain rfl := concerns_elevation_iff.mp (hc ▸ hq)
      exact changes_elevation hc
  | storeKey key =>
      obtain rfl := concerns_key_iff.mp (hc ▸ hq)
      exact changes_storeKey hq
  | file p =>
      obtain ⟨r, rfl, hr⟩ := concerns_file_iff.mp (hc ▸ hq)
      exact changes_file hc hr
  | dir p => exact changes_dir hc (hc ▸ hq)
  | space =>
      obtain ⟨p, rfl⟩ := concerns_space_iff.mp (hc ▸ hq)
      exact changes_space hc p
  | ports =>
      obtain rfl := concerns_ports_iff.mp (hc ▸ hq)
      exact changes_ports hc
  | tool program =>
      obtain ⟨args, limit, rfl⟩ := concerns_tool_iff.mp (hc ▸ hq)
      exact changes_tool hc args limit

theorem concerns_of_changes (h : c.Changes q) : c.fact.Concerns q := by
  obtain ⟨before, hne⟩ := h
  rw [ofCalls_concat] at hne
  exact Classical.byContradiction fun hq =>
    hne (answer_apply_of_not_concerned (ofCalls before) hq)

end Changes

section Paths

variable {h : FixedHost} {p : Path} {entries : List Path}

theorem pathExists_of_isDir (hdir : h.answer (.isDir p) = .ok true) :
    h.answer (.pathExists p) = .ok true := by
  have hdir' : h.isDir p = true := Except.ok.inj hdir
  exact congrArg Except.ok (by rw [pathExists, hdir', Bool.or_true])

/-- A path that is listed is in the table of directories. -/
theorem isDir_of_listDir (hlist : h.answer (.listDir p) = .ok entries) :
    h.answer (.isDir p) = .ok true := by
  change h.listDir p = .ok entries at hlist
  refine congrArg Except.ok ?_
  rw [listDir] at hlist
  rw [isDir]
  cases hfound : find? Path.same p h.dirs with
  | none =>
      rw [hfound] at hlist
      cases hlist
  | some found => rfl

end Paths

/-- A call changes the answers that its fact concerns and no others. After any calls what is a
directory is there, and what is listed is a directory. -/
theorem call_changes_iff_concerned :
    (∀ (c : Call) (q : Question),
      (∃ before, (ofCalls (before ++ [c])).answer q ≠ (ofCalls before).answer q) ↔
        c.fact.Concerns q) ∧
    ∀ (calls : List Call) (p : Path),
      ((ofCalls calls).answer (.isDir p) = .ok true →
        (ofCalls calls).answer (.pathExists p) = .ok true) ∧
      ∀ entries, (ofCalls calls).answer (.listDir p) = .ok entries →
        (ofCalls calls).answer (.isDir p) = .ok true :=
  ⟨fun _ _ => ⟨concerns_of_changes, changes_of_concerns⟩,
    fun _ _ => ⟨pathExists_of_isDir, fun _ => isDir_of_listDir⟩⟩

/-- A directory in another spelling of its path, and a file that shares its text but for a dot. -/
theorem call_changes_iff_concerned_of_spellings :
    let calls : List Call := [.dir ⟨"/data"⟩ ["a.dbf"]]
    let file : Call := .file ⟨"./data"⟩
    (ofCalls calls).answer (.listDir ⟨"//data/."⟩) = .ok [⟨"/data/a.dbf"⟩] ∧
      (ofCalls calls).answer (.isDir ⟨"//data/."⟩) = .ok true ∧
      (ofCalls calls).answer (.pathExists ⟨"//data/."⟩) = .ok true ∧
      ¬ file.fact.Concerns (.pathExists ⟨"data"⟩) ∧
      (ofCalls (calls ++ [file])).answer (.pathExists ⟨"data"⟩) =
        (ofCalls calls).answer (.pathExists ⟨"data"⟩) := by
  intro calls file
  obtain ⟨hcalls, hpaths⟩ := call_changes_iff_concerned
  obtain ⟨hexists, hdir⟩ := hpaths calls ⟨"//data/."⟩
  have hlist : (ofCalls calls).answer (.listDir ⟨"//data/."⟩) = .ok [⟨"/data/a.dbf"⟩] := by
    rfl
  have hother : ¬ file.fact.Concerns (.pathExists ⟨"data"⟩) := by
    change ¬ Path.components ⟨"./data"⟩ = Path.components ⟨"data"⟩
    decide
  refine ⟨hlist, hdir _ hlist, hexists (hdir _ hlist), hother, ?_⟩
  exact Classical.byContradiction fun hne => hother ((hcalls file _).mp ⟨calls, hne⟩)

end Readiness.FixedHost
