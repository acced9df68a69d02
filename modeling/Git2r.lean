import Git2r.Walk
import Git2r.Count
import Git2r.LineBuffer
import Git2r.Staging
import Git2r.RHeap
import Git2r.Materialize
import Git2r.Refinement
import Git2r.FormatToR
import Git2r.Entry
import Git2r.Rewalk
import Git2r.Frame
import Git2r.Revparse
