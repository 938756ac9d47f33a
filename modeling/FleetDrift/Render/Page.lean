import FleetDrift.Number.Notation
import FleetDrift.Render.Markup
import FleetDrift.Report.Basic

/-!
# Reports as web pages

A page shows the summary of a report and, for each group, its sub-groups with the differing values
and the copies in order of preference. All that comes from the panels stands in text fragments.
-/

namespace FleetDrift.Render

open Number (Binary64 Notation decimalText)

namespace Page

def rule (selector : String) (declarations : List String) : String :=
  "  " ++ selector ++ " \x7b " ++ String.join (declarations.map (· ++ "; ")) ++ "\x7d"

def styleRules : List String :=
  [rule "body" ["font-family: system-ui, sans-serif", "margin: 2rem", "color: #222"],
   rule "h1" ["font-size: 1.4rem"],
   rule ".summary td" ["padding: 0 1rem 0 0"],
   rule ".group"
     ["border: 1px solid #ddd", "border-radius: 6px", "margin: 1rem 0", "padding: 0.5rem 1rem"],
   rule ".high" ["border-left: 6px solid #c0392b"],
   rule ".medium" ["border-left: 6px solid #e67e22"],
   rule ".tag"
     ["display: inline-block", "background: #eee", "border-radius: 3px", "padding: 0 0.4rem",
      "margin-right: 0.3rem", "font-size: 0.85rem"],
   rule "table.members" ["border-collapse: collapse", "margin: 0.5rem 0"],
   rule "table.members th, table.members td"
     ["border: 1px solid #ddd", "padding: 0.2rem 0.5rem", "font-size: 0.9rem"],
   rule "tr.recommended" ["background: #eafaf1"],
   rule "code" ["font-size: 0.8rem"]]

def headLines : List String :=
  ["<!DOCTYPE html>",
   "<html lang=\"en\">",
   "<head>",
   "<meta charset=\"utf-8\">",
   "<title>clientdiff report</title>",
   "<style>"]
    ++ styleRules
    ++ ["</style>", "</head>", "<body>", "<h1>Client drift report</h1>"]

def number (x : Binary64) : Fragment := .text (String.ofList (Notation.page.chars x))

def count (n : Nat) : Fragment := .text (decimalText n)

def summaryRow (label : String) (cells : List Fragment) : List Fragment :=
  .markup ("  <tr><td>" ++ label ++ "</td><td>") :: cells ++ [.markup "</td></tr>\n"]

def summary (r : Report) : List Fragment :=
  [.markup "<p>Snapshot <code>", .text r.fingerprint,
   .markup "</code></p>\n<table class=\"summary\">\n"]
    ++ summaryRow "Entries scanned" [count r.summary.totalEntries]
    ++ summaryRow "Unidentifiable entries" [count r.summary.unidentifiableEntries]
    ++ summaryRow "Identity groups" [count r.summary.totalGroups]
    ++ summaryRow "Conflicting groups" [count r.summary.conflictGroups]
    ++ summaryRow "High / medium"
      [count r.summary.high, .markup " / ", count r.summary.medium]
    ++ [.markup "</table>\n"]

def tag (t : ConflictType) : List Fragment :=
  [.markup "<span class=\"tag\">", .text t.name, .markup "</span>"]

def fieldDiff (d : FieldDiff) : List Fragment :=
  [.markup "\n    <li><strong>", .text d.field.label, .markup "</strong>: ",
   .text (String.intercalate " / " (d.values.map FieldValue.display)),
   .markup "</li>\n    "]

def cell (content : List Fragment) : List Fragment :=
  .markup "      <td>" :: content ++ [.markup "</td>\n"]

/-- The copy that is preferred to all others is marked. -/
def candidate (c : Candidate) : List Fragment :=
  [.markup "\n    <tr",
   .markup (if c.rank = 0 then " class=\"recommended\"" else ""),
   .markup ">\n"]
    ++ cell [count (c.rank + 1)]
    ++ cell [.text c.serverName, .markup " (", .text c.serverId, .markup ")"]
    ++ cell [.text c.inboundRemark]
    ++ cell [.markup (if c.enable then "yes" else "no")]
    ++ cell [number c.expiryTime]
    ++ cell [number c.totalGB]
    ++ cell [number c.limitIp]
    ++ cell [.markup "<code>", .text c.locator, .markup "</code>"]
    ++ [.markup "    </tr>\n    "]

def memberHeads : String :=
  "<tr><th>#</th><th>Server</th><th>Inbound</th><th>Enabled</th><th>Expiry</th><th>Quota</th>"
    ++ "<th>IP limit</th><th>Locator</th></tr>"

def subGroup (s : SubGroup) : List Fragment :=
  [.markup "\n  <h3>", .text s.protocol, .markup "</h3>\n  <p>\n    "]
    ++ s.comparison.conflictTypes.flatMap tag
    ++ [.markup "\n  </p>\n  <ul>\n    "]
    ++ s.comparison.fieldDiffs.flatMap fieldDiff
    ++ [.markup ("\n  </ul>\n  <table class=\"members\">\n    " ++ memberHeads ++ "\n    ")]
    ++ s.ranked.flatMap candidate
    ++ [.markup "\n  </table>\n  "]

def group (g : Group) : List Fragment :=
  [.markup "\n<div class=\"group ", .text g.severity.name, .markup "\">\n  <h2>",
   .text g.identity.value, .markup " <small>(", .text g.identity.kind.name, .markup ", ",
   .text g.severity.name, .markup ", ", count g.size, .markup " copies)</small></h2>\n  "]
    ++ g.subGroups.flatMap subGroup
    ++ [.markup "\n</div>\n"]

def cleanNote (r : Report) : Fragment :=
  .markup
    (if r.isClean then "\n<p><em>No conflicts. Every copy agrees.</em></p>\n" else "")

def fragments (r : Report) : List Fragment :=
  .markup (String.join (headLines.map (· ++ "\n")))
    :: summary r
    ++ [cleanNote r, .markup "\n"]
    ++ r.groups.flatMap group
    ++ [.markup "\n</body>\n</html>"]

end Page

def page (r : Report) : String := writeFragments (Page.fragments r)

end FleetDrift.Render
