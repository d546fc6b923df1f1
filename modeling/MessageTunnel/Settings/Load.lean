import MessageTunnel.Settings.Decode
import MessageTunnel.Storage.FileSystem
import MessageTunnel.Toml.Document
set_option autoImplicit false

namespace MessageTunnel

inductive SettingsError where
  | read (path : String) (cause : IoError)
  | malformed
  | mismatch (m : Settings.Mismatch)
  | unknownCongestionControl (name : String)
  | fault (f : SettingsFault)
  deriving DecidableEq, Repr

def SettingsError.message : SettingsError → String
  | read path cause => "failed to read configuration file " ++ path ++ ": " ++ cause.message
  | malformed => "invalid configuration"
  | mismatch m => "invalid configuration: " ++ m.message
  | unknownCongestionControl name => "unknown congestion control algorithm `" ++ name ++ "`"
  | fault f => f.message

namespace Settings

def congestionNamed (text : String) : Except SettingsError CongestionControl :=
  match CongestionControl.ofText? text with
  | some c => .ok c
  | none => .error (.unknownCongestionControl text)

def load {σ : Type} (ofEntries : Toml.Entries → Except Mismatch σ) (shared : σ → Settings)
    (document : String) : Except SettingsError σ := do
  match Toml.parse document with
  | none => throw .malformed
  | some entries =>
    let s ← (ofEntries entries).mapError .mismatch
    (shared s).check.mapError .fault
    return s

def readFile (fs : FileSystem) (path : String) : Except SettingsError String :=
  (fs.readText path).mapError (.read path)

end Settings

def ClientSettings.ofToml (document : String) : Except SettingsError ClientSettings :=
  Settings.load ClientSettings.ofEntries ClientSettings.shared document

def ServerSettings.ofToml (document : String) : Except SettingsError ServerSettings :=
  Settings.load ServerSettings.ofEntries ServerSettings.shared document

def ClientSettings.ofFile (fs : FileSystem) (path : String) :
    Except SettingsError ClientSettings := Settings.readFile fs path >>= ofToml

def ServerSettings.ofFile (fs : FileSystem) (path : String) :
    Except SettingsError ServerSettings := Settings.readFile fs path >>= ofToml

end MessageTunnel
