import BlogTheme.Json.Writer
import BlogTheme.Main
import BlogTheme.Proofs.Engine.Failure
import BlogTheme.Proofs.Render.Escaping
import BlogTheme.Proofs.Render.Recovery
import BlogTheme.Template.Json
import BlogTheme.Proofs.Render.Inlining
import BlogTheme.Proofs.Render.Depth
import BlogTheme.Proofs.Render.Layouts
import BlogTheme.Proofs.Template.RoundTrip
import BlogTheme.Proofs.Render.Limit
import BlogTheme.Proofs.Engine.Session
import BlogTheme.Proofs.Template.Balanced
import BlogTheme.Proofs.Render.Looping
import BlogTheme.Proofs.Value.Parents
import BlogTheme.Proofs.Theme.LayoutChain
import BlogTheme.Proofs.Engine.Checking
import BlogTheme.Proofs.Engine.Loading
import BlogTheme.Proofs.Render.Directives
import BlogTheme.Proofs.Render.Conditionals
import BlogTheme.Proofs.Render.Scoping
import BlogTheme.Proofs.Value.Names
import BlogTheme.Proofs.Template.Tiling
import BlogTheme.Proofs.Template.LayoutTags
import BlogTheme.Proofs.Template.Faults
import BlogTheme.Proofs.Render.Cuts
import BlogTheme.Proofs.Render.Dates
import BlogTheme.Proofs.Render.Delimiters
import BlogTheme.Proofs.Date.Pieces
import BlogTheme.Proofs.Date.Relative
import BlogTheme.Proofs.Render.Collections
import BlogTheme.Proofs.Engine.Recency
import BlogTheme.Proofs.Text.Slug
import BlogTheme.Proofs.Render.PageLinks
import BlogTheme.Proofs.Template.Json
import BlogTheme.Proofs.Request.Json
import BlogTheme.Proofs.Render.LoopFlags
import BlogTheme.Proofs.Render.RepeatedKeys
