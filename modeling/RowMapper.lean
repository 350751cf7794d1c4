import RowMapper.Text.Blank
import RowMapper.Text.LowerCase
import RowMapper.Text.Search
import RowMapper.Text.Clip
import RowMapper.Text.Quoted
import RowMapper.Text.Utf8
import RowMapper.Duration
import RowMapper.Number.BigEndian
import RowMapper.Number.DoubleText
import RowMapper.Text.Hex
import RowMapper.Json.Shape
import RowMapper.Json.Access
import RowMapper.Json.Cells
import RowMapper.KeyOrder
import RowMapper.Error
import RowMapper.Kind
import RowMapper.Hook.Basic
import RowMapper.Buffers
import RowMapper.Cancel
import RowMapper.Config
import RowMapper.Populate
import RowMapper.Catalog
import RowMapper.Statement
import RowMapper.Labels
import RowMapper.StatementCache
import RowMapper.Pool
import RowMapper.Limits
import RowMapper.Server.Script
import RowMapper.Server.Basic
import RowMapper.Cursor
import RowMapper.Operation
import RowMapper.Session.Basic
import RowMapper.Session.Call
import RowMapper.Session.Records
import RowMapper.Session.Opening
import RowMapper.Declaration.Mapping
import RowMapper.Proofs.Session.Beginning
import RowMapper.Proofs.Session.Caching
import RowMapper.Proofs.Session.StalePlans
import RowMapper.Proofs.Session.Invocations
import RowMapper.Proofs.Operation.Pairing
import RowMapper.Proofs.Operation.Conflicts
import RowMapper.Proofs.Cache.Recovery
import RowMapper.Collection
import RowMapper.Proofs.Columns.Positions
import RowMapper.Proofs.Columns.Views
import RowMapper.Proofs.Values.Codecs
import RowMapper.Proofs.Record.Flattening
import RowMapper.Proofs.Declaration.Access
import RowMapper.Proofs.Record.Filling
import RowMapper.Proofs.Record.RoundTrip
import RowMapper.Proofs.Server.Likeness
import RowMapper.Proofs.Session.Settled
import RowMapper.Proofs.Session.Alike
import RowMapper.Proofs.Session.Readying
import RowMapper.Proofs.Session.Lockstep
import RowMapper.Proofs.Session.Connecting
import RowMapper.Proofs.Session.Acts
import RowMapper.Proofs.Session.Transparency
import RowMapper.Proofs.Session.Courses
import RowMapper.Proofs.Session.Keeping
import RowMapper.Proofs.Session.Staging
import RowMapper.Proofs.Session.Limited
import RowMapper.Proofs.Session.Outcomes
import RowMapper.Proofs.Session.Abiding
import RowMapper.Proofs.Session.Deadlines
import RowMapper.Proofs.Session.Lending
import RowMapper.Proofs.Session.Desks
import RowMapper.Proofs.Session.Bindings
import RowMapper.Proofs.Session.Ledgers
import RowMapper.Proofs.Record.Frames
import RowMapper.Proofs.Record.Populating
import RowMapper.Proofs.Record.ByName
import RowMapper.Proofs.Record.Joins
import RowMapper.Proofs.Columns.Trees
import RowMapper.Proofs.Session.Receiving
import RowMapper.Proofs.Cache.Interleaving
import RowMapper.Proofs.Operation.ReadOnly
import RowMapper.Proofs.Columns.Resolving
import RowMapper.Proofs.Hook.Nesting
import RowMapper.Proofs.Session.Hits
import RowMapper.Proofs.Session.Traffic
import RowMapper.Proofs.Session.Isolation
import RowMapper.Proofs.Cache.Recency
import RowMapper.Proofs.Columns.Concatenation
import RowMapper.Proofs.Hook.Counts
import RowMapper.Proofs.Session.Chains
import RowMapper.Proofs.Operation.Namesakes
import RowMapper.Proofs.Hook.Kinds
import RowMapper.Proofs.Columns.Tags
import RowMapper.Proofs.Declaration.Settings
import RowMapper.Proofs.Session.Writing
import RowMapper.Proofs.Text.Clipping
