import MessageTunnel.Quic.Parameters
import MessageTunnel.Proofs.Settings.Loading
/-!
What passed the check of settings against what the library takes. The check looks at the size of
first packets, which the library would raise; it does not look at the idle timeout, for which the
library has a bound of its own. Below this bound settings that passed the check are taken as they
are.
-/
set_option autoImplicit false

namespace MessageTunnel

namespace Quic

/-- What is known of the library: its bound for idle timeouts, and that it raises what is too small
for first packets. -/
structure Library.IsAsDocumented (q : Library) : Prop where
  timeout {ms : UInt64} (short : ms.toNat < varintBound) : q.timeout ms = .ok ms
  timeout_long {ms : UInt64} (long : varintBound ≤ ms.toNat) : ∃ e, q.timeout ms = .error e
  mtu (mtu : UInt16) : q.mtu mtu = max leastInitialMtu mtu
  defaultMtu : q.defaultMtu = leastInitialMtu

theorem Library.isAsDocumented_quinn : quinn.IsAsDocumented where
  timeout short := if_neg (Nat.not_le.2 short)
  timeout_long long := ⟨_, if_pos long⟩
  mtu _ := rfl
  defaultMtu := rfl

/-- Parameters with the values that the settings have, none of them clamped or raised. -/
structure Parameters.Carries (p : Parameters) (s : Settings) : Prop where
  maxIdleTimeout : p.maxIdleTimeout = s.idleTimeout?
  keepAlive : p.keepAlive = s.keepAlive?
  initialMtu : p.initialMtu = s.initialMtu?.getD leastInitialMtu

namespace Library

variable {q : Library} {s : Settings}

theorem IsAsDocumented.mapM_timeout (h : q.IsAsDocumented)
    (short : s.idleTimeout.toNat < varintBound) :
    s.idleTimeout?.mapM q.timeout = .ok s.idleTimeout? := by
  unfold Settings.idleTimeout?
  split
  · rfl
  · rw [Option.mapM_some, h.timeout short]
    rfl

theorem IsAsDocumented.getD_mtu (h : q.IsAsDocumented) (checked : s.check = .ok ()) :
    (s.initialMtu?.map q.mtu).getD q.defaultMtu = s.initialMtu?.getD leastInitialMtu := by
  cases planned : s.initialMtu? with
  | none => exact h.defaultMtu
  | some mtu =>
    have enough : leastInitialMtu ≤ mtu := Settings.leastMtu_le_initialMtu? checked planned
    rw [Option.map_some, Option.getD_some, Option.getD_some, h.mtu]
    exact if_pos enough

theorem IsAsDocumented.takes (h : q.IsAsDocumented) (checked : s.check = .ok ())
    (short : s.idleTimeout.toNat < varintBound) : ∃ p, q.parameters s = .ok p ∧ p.Carries s := by
  have taken : q.parameters s = .ok
      { maxIdleTimeout := s.idleTimeout?
        initialMtu := (s.initialMtu?.map q.mtu).getD q.defaultMtu
        keepAlive := s.keepAlive?
        datagramBuffer := if s.datagrams then some q.datagramBuffer else none
        congestion := s.congestion } := by
    rw [parameters, h.mapM_timeout short]
    rfl
  exact ⟨_, taken, rfl, rfl, h.getD_mtu checked⟩

theorem IsAsDocumented.refuses (h : q.IsAsDocumented)
    (long : varintBound ≤ s.idleTimeout.toNat) :
    ∃ detail, q.parameters s = .error ⟨.config, detail⟩ := by
  have set : s.idleTimeout? = some s.idleTimeout := by
    refine if_neg fun none => ?_
    simp [none, varintBound] at long
  obtain ⟨detail, refused⟩ := h.timeout_long long
  refine ⟨detail, ?_⟩
  rw [parameters, set, Option.mapM_some, refused]
  rfl

structure StartsAsLoaded (q : Library) : Prop where
  /-- Settings that passed the check are taken as they are if their idle timeout is short enough. -/
  taken (s : Settings) (checked : s.check = .ok ()) (short : s.idleTimeout.toNat < varintBound) :
    ∃ p, q.parameters s = .ok p ∧ p.Carries s
  /-- With a longer one the start fails, and it is told from other failures as one of settings. -/
  refused (s : Settings) (checked : s.check = .ok ()) (long : varintBound ≤ s.idleTimeout.toNat) :
    ∃ detail, q.parameters s = .error ⟨.config, detail⟩
  client (document : String) (c : ClientSettings)
    (loaded : ClientSettings.ofToml document = .ok c) : c.shared.check = .ok ()
  server (document : String) (c : ServerSettings)
    (loaded : ServerSettings.ofToml document = .ok c) : c.shared.check = .ok ()

/-- The check of settings is all that a start needs, the bound of the library for idle timeouts
apart. -/
theorem starts_as_loaded (q : Library) (documented : q.IsAsDocumented) : q.StartsAsLoaded where
  taken _ checked short := documented.takes checked short
  refused _ _ long := documented.refuses long
  client _ _ loaded := Settings.check_of_load loaded
  server _ _ loaded := Settings.check_of_load loaded

def utmostSettings : Settings :=
  { idleTimeout := 0x3FFFFFFFFFFFFFFF
    keepAlive := some 0xFFFFFFFFFFFFFFFF
    initialMtu := some 1200 }

theorem starts_as_loaded_utmost :
    quinn.IsAsDocumented ∧ utmostSettings.check = .ok () ∧
      utmostSettings.idleTimeout.toNat < varintBound ∧
      ∃ p, quinn.parameters utmostSettings = .ok p ∧ p.Carries utmostSettings := by
  have checked : utmostSettings.check = .ok () := rfl
  have short : utmostSettings.idleTimeout.toNat < varintBound := by decide
  exact ⟨isAsDocumented_quinn, checked, short,
    (starts_as_loaded quinn isAsDocumented_quinn).taken utmostSettings checked short⟩

def longTimeoutDocument : String := "idle_timeout_ms = 4611686018427387904"

/-- A document is loaded and passes the check, and no connection can be started with it. -/
theorem long_timeout_refused :
    ∃ c, ClientSettings.ofToml longTimeoutDocument = .ok c ∧ c.shared.check = .ok () ∧
      ¬ ∃ p, Parameters.ofSettings c.shared = .ok p := by
  have read : (ClientSettings.ofToml longTimeoutDocument).toOption =
      some { shared := { idleTimeout := 0x4000000000000000 } } := by decide +kernel
  cases loaded : ClientSettings.ofToml longTimeoutDocument with
  | error e => simp [loaded, Except.toOption] at read
  | ok c =>
    obtain rfl : c = { shared := { idleTimeout := 0x4000000000000000 } } := by
      simpa [loaded, Except.toOption] using read
    obtain ⟨detail, refused⟩ := isAsDocumented_quinn.refuses
      (s := { idleTimeout := 0x4000000000000000 }) (by decide)
    exact ⟨_, rfl, Settings.check_of_load loaded, by simp [Parameters.ofSettings, refused]⟩

end Library

end Quic

end MessageTunnel
