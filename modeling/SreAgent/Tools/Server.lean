import SreAgent.Lib.PercentEncoding
import SreAgent.Settings
import SreAgent.Tools.Answers
import SreAgent.Tools.Metrics

/-!
# What the tools of a server share

The settings and the registry all tools look at, and how a request to a backend is put together: its
base, which the registry may set for a cluster, what is sent only if it is given, and what is written
into the path so that it stays one segment.

`quote` with nothing safe is percent encoding of everything but the unreserved characters. It is
injective, since it can be undone: that is what makes a project one segment of a path.
-/

namespace SreAgent.Tools

open Interaction (Prog)
open Py (Json)

structure Server where
  settings : ServerSettings := {}
  registry : Registry
  now      : Kube.Timestamp

/-- The server as the tools with a namespace see it. -/
def Server.site (self : Server) : Site where
  settings := self.settings.toSettings
  registry := self.registry.toClusterRegistry
  ragEnabled := self.settings.ragEnabled
  now := self.now

/-- `url.rstrip("/")`. -/
def trimmed (url : String) : String := String.ofList (Py.rstrip '/' url.toList)

/-- `own or default`. -/
def orDefault (own default : String) : String := if own = "" then default else own

/-- What is only sent if its value is given. -/
def given (name value : String) : List (String × String) :=
  if value = "" then [] else [(name, value)]

/-- A header with a credential, if there is one. -/
def bearer (token : String) : List (String × String) :=
  if token = "" then [] else [("Authorization", "Bearer " ++ token)]

/-- `s.encode()`. -/
def utf8 (s : String) : List UInt8 := s.toUTF8.data.toList

/-- `quote(s, safe="")`. -/
def quote (s : String) : String := String.ofList (PercentEncoding.encode false (utf8 s))

/-- `unquote(s)`, of what is UTF-8. -/
def unquote (s : String) : Option String :=
  String.fromUTF8? ⟨(PercentEncoding.decode false s.toList).toArray⟩

/-- Quoting is undone by unquoting, on every string, so no two strings are quoted alike. -/
theorem unquote_quote (s : String) : unquote (quote s) = some s := by
  have hbytes : (⟨(utf8 s).toArray⟩ : ByteArray) = s.toUTF8 := rfl
  unfold unquote quote
  rw [String.toList_ofList, PercentEncoding.decode_encode, hbytes, String.toUTF8_eq_toByteArray,
    String.fromUTF8?, dif_pos s.isValidUTF8]
  rfl

theorem quote_inj {s t : String} (h : quote s = quote t) : s = t := by
  have hread : some s = some t := by rw [← unquote_quote s, h, unquote_quote]
  exact Option.some.inj hread

end SreAgent.Tools
