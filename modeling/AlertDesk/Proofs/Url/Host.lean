import AlertDesk.Proofs.Chain
import AlertDesk.Url.Reader

/-!
# AlertDesk.Proofs.Url.Host

The URL of a web server has a host.

Main facts:

* `Host.ofWeb_ne` — what is read as the host of a web URL is not empty;
* `hasHost_of_parse` — nor is the host of a URL of the web that has been read.
-/

namespace AlertDesk.Url

variable {scheme text : String} {atEnd : Bool} {cs : List Char} {host : String} {u : Url}

/-! ## hosts -/

namespace Host

theorem bracketed_ne (h : bracketed cs = .ok host) : host ≠ "" := by
  unfold bracketed at h
  split at h
  · contradiction
  · split at h
    · obtain rfl := Except.ok.inj h
      simp [← String.toList_inj]
    · contradiction

/-- What is read as the host of a web URL is not empty. -/
theorem ofWeb_ne (h : ofWeb cs = .ok host) : host ≠ "" := by
  unfold ofWeb at h
  split at h
  · exact bracketed_ne h
  · split at h
    · contradiction
    · next domain _ =>
        split at h
        · contradiction
        · next hdomain =>
            split at h
            · split at h
              · obtain rfl := Except.ok.inj h
                simp [← String.toList_inj, V4.text]
              · contradiction
            · obtain rfl := Except.ok.inj h
              simpa [← String.toList_inj] using hdomain

end Host

/-! ## URLs -/

theorem host_of_readAuthority {a : Authority} (hscheme : isSpecialScheme scheme = true)
    (h : readAuthority scheme atEnd cs = .ok a) : a.host ≠ "" := by
  unfold readAuthority at h
  simp only [hscheme, if_true, check_eq_ok_iff, bind_eq_ok_iff] at h
  obtain ⟨-, -, host, hhost, -, h⟩ := h
  have heq : host = a.host := by
    split at h
    · simp only [check_eq_ok_iff, bind_eq_ok_iff] at h
      obtain ⟨_, -, -, h⟩ := h
      exact congrArg Authority.host (Except.ok.inj h)
    · simp only [check_eq_ok_iff, bind_eq_ok_iff] at h
      obtain ⟨_, -, -, h⟩ := h
      exact congrArg Authority.host (Except.ok.inj h)
  exact heq ▸ Host.ofWeb_ne hhost

theorem hasHost_of_readWithAuthority (hscheme : isSpecialScheme scheme = true)
    (h : readWithAuthority scheme cs = .ok u) : u.hasHost = true := by
  unfold readWithAuthority at h
  simp only [bind_eq_ok_iff] at h
  obtain ⟨a, ha, h⟩ := h
  obtain rfl := Except.ok.inj h
  simp [hasHost, host_of_readAuthority hscheme ha]

/-- The path of a file is read from some text, whether a host stands before it or not. -/
theorem scheme_path_of_readFile (h : readFile cs = .ok u) :
    u.scheme = "file" ∧ ∃ rest, u.path = .segments (readFilePath (cutTail true rest).1) := by
  -- whether a host is written or not, it only goes into the host of the URL
  have hread : ∀ (x : Except Fault String) (f : String → Url) (rest : List Char),
      (∀ host, (f host).scheme = "file" ∧
        (f host).path = .segments (readFilePath (cutTail true rest).1)) →
      (x >>= fun host => pure (f host)) = .ok u →
      u.scheme = "file" ∧ ∃ rest, u.path = .segments (readFilePath (cutTail true rest).1) := by
    intro x f rest hf h
    obtain ⟨host, -, h⟩ := bind_eq_ok_iff.mp h
    obtain rfl := Except.ok.inj h
    exact ⟨(hf host).1, rest, (hf host).2⟩
  unfold readFile at h
  dsimp only at h
  split at h <;> split at h <;> exact hread _ _ _ (fun _ => ⟨rfl, rfl⟩) h

theorem scheme_of_readFile (h : readFile cs = .ok u) : u.scheme = "file" :=
  (scheme_path_of_readFile h).1

theorem scheme_of_readOther (h : readOther scheme cs = .ok u) : u.scheme = scheme := by
  unfold readOther at h
  split at h
  · unfold readWithAuthority at h
    simp only [bind_eq_ok_iff] at h
    obtain ⟨a, -, h⟩ := h
    obtain rfl := Except.ok.inj h
    rfl
  · obtain rfl := Except.ok.inj h
    rfl
  · obtain rfl := Except.ok.inj h
    rfl

theorem isSpecial_of_isWeb (h : u.isWeb = true) : u.isSpecial = true := by
  obtain hs | hs : u.scheme = "http" ∨ u.scheme = "https" := by simpa [isWeb] using h
  · rw [isSpecial, hs]
    decide
  · rw [isSpecial, hs]
    decide

/-- **The URL of a web server has a host.** -/
theorem hasHost_of_parse (h : parse text = .ok u) (hweb : u.isWeb = true) : u.hasHost = true := by
  unfold parse at h
  split at h
  · contradiction
  · next scheme r _ =>
      split at h
      · simp [isWeb, scheme_of_readFile h] at hweb
      · split at h
        · next hspecial => exact hasHost_of_readWithAuthority hspecial h
        · next hspecial =>
            have hs : isSpecialScheme scheme = true :=
              scheme_of_readOther h ▸ isSpecial_of_isWeb hweb
            contradiction

end AlertDesk.Url
