import FacetSearch.Attributes
import FacetSearch.Calendar.Day
import FacetSearch.Calendar.Period
import FacetSearch.Channel
import FacetSearch.Config
import FacetSearch.CursorFormat
import FacetSearch.Directory
import FacetSearch.Document
import FacetSearch.Error
import FacetSearch.Event
import FacetSearch.Facet
import FacetSearch.HeadingFocus
import FacetSearch.Json.Double
import FacetSearch.Json.Fields
import FacetSearch.Json.Lexeme
import FacetSearch.Json.Number
import FacetSearch.Json.Reader
import FacetSearch.Json.Value
import FacetSearch.Line
import FacetSearch.Listing
import FacetSearch.NodeMatch
import FacetSearch.Paging
import FacetSearch.Proofs.Query.Page
import FacetSearch.Proofs.Selection.Distinct
import FacetSearch.Query
import FacetSearch.Selection
import FacetSearch.Session.Basic
import FacetSearch.Session.Run
import FacetSearch.Session.Script
import FacetSearch.Tag
import FacetSearch.Term
import FacetSearch.Terms
import FacetSearch.Text.Cut
import FacetSearch.Text.Digits
import FacetSearch.Text.LowerCase
import FacetSearch.Text.WhiteSpace
import FacetSearch.Version
import FacetSearch.Wire.Document
import FacetSearch.Wire.Event
import FacetSearch.Wire.Query
import FacetSearch.Wire.Term
import FacetSearch.Wire.Text
import FacetSearch.Proofs.Session.Call
import FacetSearch.Proofs.Run.Reachable
import FacetSearch.Proofs.Run.Record
import FacetSearch.Proofs.Run.Shown
import FacetSearch.Proofs.Run.Closing
import FacetSearch.Proofs.Run.NextPage
import FacetSearch.Proofs.Paging.Pager
import FacetSearch.Proofs.Run.Walk
import FacetSearch.Proofs.Selection.Slots
import FacetSearch.Proofs.Run.EditedPage
import FacetSearch.Proofs.Tag.Normal
import FacetSearch.Proofs.Term.Value
import FacetSearch.Proofs.Term.RoundTrip
import FacetSearch.Proofs.Line.Join
import FacetSearch.Proofs.Selection.Edit
import FacetSearch.Proofs.Selection.Restore
import FacetSearch.Proofs.Text.LowerCase
import FacetSearch.Proofs.Run.Results
import FacetSearch.Proofs.Run.Saved
import FacetSearch.Proofs.Run.ThereAndBack
import FacetSearch.Proofs.Selection.Order
import FacetSearch.Proofs.Session.Idle
import FacetSearch.Proofs.Run.Loading
import FacetSearch.Proofs.Run.Retry
import FacetSearch.Proofs.Json.Fields
import FacetSearch.Proofs.Wire.RoundTrip
import FacetSearch.Proofs.Tag.Twice
import FacetSearch.Proofs.Query.Lists
import FacetSearch.Proofs.Selection.Lasting
import FacetSearch.Proofs.Selection.Reorder
import FacetSearch.Proofs.Session.Loaded
import FacetSearch.Proofs.Query.Merged
import FacetSearch.Proofs.Query.Shown
import FacetSearch.Proofs.Term.Grammar
import FacetSearch.Proofs.Selection.Removal
import FacetSearch.Proofs.Calendar.Bounds
import FacetSearch.Proofs.Run.OnePage
import FacetSearch.Proofs.Query.CursorFormat
import FacetSearch.Proofs.Run.Trail
